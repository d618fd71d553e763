import Mathlib.Data.List.Nodup
import Kanzan.Support.Processes

/-!
# Ticket numbers

Any number of processes that save new tickets, in whatever transactions and savepoints
surround them.  A turn is one statement of the database: it sees what has been committed
and what its own transaction has written.  The lock of a counter's row, which an inserted
row has as well, stays until the transaction ends or goes back to an earlier savepoint.
-/

namespace Kanzan.Tickets.Counter

open Support

/-! ## The tables and the transactions -/

/-- The `tenant` and `number` columns of a ticket. -/
structure TicketNumber where
  tenant : ℕ
  number : ℕ
  deriving DecidableEq, Repr

/-- A number that a committed transaction has drawn, and the process that drew it. -/
structure Drawn extends TicketNumber where
  process : ℕ
  deriving DecidableEq, Repr

/--
What has been committed: `last_number` of each tenant's `TicketCounter`, and the tickets.
`drawn` is history: the numbers drawn, in the order in which the drawing transactions
committed.
-/
structure Numbers where
  counters : ℕ → Option ℕ := fun _ => none
  tickets : List TicketNumber := []
  locks : Locks ℕ := fun _ => none
  drawn : List Drawn := []

/-- What an open transaction has written up to a savepoint, and the counters it has locked. -/
structure Frame where
  counters : ℕ → Option ℕ := fun _ => none
  locked : List ℕ := []
  tickets : List TicketNumber := []
  drawn : List TicketNumber := []

/-- How far `Ticket.save` has come. -/
inductive Stage where
  | idle
  /-- `get` of `get_or_create`, with `select_for_update`. -/
  | getting (tenant : ℕ)
  | creating (tenant : ℕ)
  /-- `get` again, after the `IntegrityError` of the creation. -/
  | refetching (tenant : ℕ)
  | incrementing (tenant : ℕ)
  | refreshing (tenant : ℕ)
  /-- `next_number` has returned. -/
  | numbered (number : TicketNumber)
  | inserting (number : TicketNumber)

/-- A process: its open `atomic` blocks, the innermost first, and its `Ticket.save`. -/
structure Worker where
  stack : List Frame := []
  stage : Stage := .idle

inductive Action where
  /-- The code around enters an `atomic` block, leaves it, or leaves it by an exception. -/
  | enter
  | leave
  | abort
  /-- A ticket without a number is saved. -/
  | save (tenant : ℕ)
  | proceed
  /-- The statement that is next raises an exception. -/
  | fail

namespace Frame

def lockRow (frame : Frame) (tenant : ℕ) : Frame :=
  { frame with locked := tenant :: frame.locked }

/-- A row is inserted, which nobody else sees and everybody else waits for. -/
def createRow (frame : Frame) (tenant : ℕ) : Frame :=
  { frame with
    counters := Function.update frame.counters tenant (some 0)
    locked := tenant :: frame.locked }

/-- `last_number = F("last_number") + 1`, where it was `last`. -/
def increment (frame : Frame) (tenant last : ℕ) : Frame :=
  { frame with
    counters := Function.update frame.counters tenant (some (last + 1))
    drawn := frame.drawn ++ [{ tenant, number := last + 1 }] }

def insertTicket (frame : Frame) (number : TicketNumber) : Frame :=
  { frame with tickets := frame.tickets ++ [number] }

end Frame

/-- The innermost open block, or nothing written. -/
def top (stack : List Frame) : Frame := stack.head?.getD {}

/-- `transaction.atomic()`: a transaction, or a savepoint of the open one. -/
def enterAtomic (stack : List Frame) : List Frame := top stack :: stack

/-- A write in the innermost block. -/
def modifyTop (edit : Frame → Frame) (stack : List Frame) : List Frame :=
  edit (top stack) :: stack.tail

section Statements

variable (process : ℕ) (numbers : Numbers)

/-- The end of a transaction. -/
def commit (frame : Frame) : Numbers where
  counters := fun tenant => (frame.counters tenant).or (numbers.counters tenant)
  tickets := numbers.tickets ++ frame.tickets
  locks := numbers.locks.keep process fun _ => false
  drawn := numbers.drawn ++ frame.drawn.map fun number => { number with process }

/-- The normal end of an `atomic` block. -/
def leaveAtomic : List Frame → Numbers × List Frame
  | [] => (numbers, [])
  | [frame] => (commit process numbers frame, [])
  | frame :: _ :: outer => (numbers, frame :: outer)

/-- The end of an `atomic` block by an exception. -/
def abortAtomic (stack : List Frame) : Numbers × List Frame :=
  let locked := (top stack.tail).locked
  ({ numbers with locks := numbers.locks.keep process fun tenant => locked.contains tenant },
    stack.tail)

def visible (stack : List Frame) (tenant : ℕ) : Option ℕ :=
  ((top stack).counters tenant).or (numbers.counters tenant)

/-- `select_for_update` on a row that exists, which waits for the lock. -/
def lockRow (tenant : ℕ) (waiting : Stage) (stack : List Frame) : Numbers × Worker :=
  if numbers.locks.free process tenant then
    ({ numbers with locks := numbers.locks.take process tenant },
      { stack := modifyTop (Frame.lockRow · tenant) stack, stage := .incrementing tenant })
  else (numbers, { stack, stage := waiting })

/-- An exception in `Ticket.save`, which is passed on to the code around. -/
def raise (stack : List Frame) : Stage → Numbers × Worker
  | .idle | .inserting _ => (numbers, { stack })
  | _ =>
    let (numbers, stack) := abortAtomic process numbers stack
    (numbers, { stack })

/-- The next statement of `Ticket.save`. -/
def proceed (stack : List Frame) (stage : Stage) : Numbers × Worker :=
  match stage with
  | .idle => (numbers, { stack })
  | .getting tenant =>
    match visible numbers stack tenant with
    | none => (numbers, { stack, stage := .creating tenant })
    | some _ => lockRow process numbers tenant (.getting tenant) stack
  | .creating tenant =>
    match visible numbers stack tenant with
    | some _ => (numbers, { stack, stage := .refetching tenant })
    | none =>
      -- The insertion waits for a transaction that has inserted the same row.
      if numbers.locks.free process tenant then
        ({ numbers with locks := numbers.locks.take process tenant },
          { stack := modifyTop (Frame.createRow · tenant) stack
            stage := .incrementing tenant })
      else (numbers, { stack, stage := .creating tenant })
  | .refetching tenant =>
    match visible numbers stack tenant with
    | none => raise process numbers stack (.refetching tenant)
    | some _ => lockRow process numbers tenant (.refetching tenant) stack
  | .incrementing tenant =>
    match visible numbers stack tenant with
    | none => raise process numbers stack (.incrementing tenant)
    | some last =>
      (numbers,
        { stack := modifyTop (Frame.increment · tenant last) stack
          stage := .refreshing tenant })
  | .refreshing tenant =>
    match visible numbers stack tenant with
    | none => raise process numbers stack (.refreshing tenant)
    | some number => (numbers, { stack, stage := .numbered { tenant, number } })
  | .numbered number =>
    let (numbers, stack) := leaveAtomic process numbers stack
    (numbers, { stack, stage := .inserting number })
  | .inserting number =>
    match stack with
    | [] => ({ numbers with tickets := numbers.tickets ++ [number] }, {})
    | frame :: outer =>
      (numbers, { stack := frame.insertTicket number :: outer })

end Statements

def act (process : ℕ) (numbers : Numbers) (worker : Worker) : Action → Numbers × Worker
  | .proceed => proceed process numbers worker.stack worker.stage
  | .fail => raise process numbers worker.stack worker.stage
  | .enter =>
    match worker.stage with
    | .idle => (numbers, { stack := enterAtomic worker.stack })
    | _ => (numbers, worker)
  | .leave =>
    match worker.stage with
    | .idle =>
      let (numbers, stack) := leaveAtomic process numbers worker.stack
      (numbers, { stack })
    | _ => (numbers, worker)
  | .abort =>
    match worker.stage with
    | .idle =>
      let (numbers, stack) := abortAtomic process numbers worker.stack
      (numbers, { stack })
    | _ => (numbers, worker)
  | .save tenant =>
    match worker.stage with
    | .idle => (numbers, { stack := enterAtomic worker.stack, stage := .getting tenant })
    | _ => (numbers, worker)

/-- No ticket has been saved, and no process has begun. -/
def start : World Numbers Worker where
  shared := {}
  locals := fun _ => {}

/-- The numbers of a tenant's tickets, in the order in which their counters were committed. -/
def handedOut (numbers : Numbers) (tenant : ℕ) : List ℕ :=
  (numbers.drawn.filter fun drawn =>
    drawn.tenant == tenant && numbers.tickets.contains drawn.toTicketNumber).map fun drawn =>
      drawn.number

/-! ## The invariant and what a process may rely on -/

def Before (first second : TicketNumber) : Prop :=
  first.tenant = second.tenant → first.number < second.number

/-- The counters are at least as high as all numbers drawn, and no ticket has another's number. -/
structure Sane (numbers : Numbers) : Prop where
  increasing : (numbers.drawn.map Drawn.toTicketNumber).Pairwise Before
  counted : ∀ drawn ∈ numbers.drawn, ∃ last, numbers.counters drawn.tenant = some last ∧
    drawn.number ≤ last
  issued : ∀ number ∈ numbers.tickets, ∃ process, { number with process } ∈ numbers.drawn
  once : numbers.tickets.Nodup

section Promises

variable (process : ℕ) (numbers : Numbers)

/-- What a block has drawn is past the committed counters, whose rows it has locked. -/
structure FrameOk (frame : Frame) : Prop where
  locked : ∀ tenant ∈ frame.locked, numbers.locks tenant = some process
  written : ∀ tenant last, frame.counters tenant = some last → tenant ∈ frame.locked
  ahead : ∀ tenant last committed, frame.counters tenant = some last →
    numbers.counters tenant = some committed → committed ≤ last
  counted : ∀ number ∈ frame.drawn, ∃ last, frame.counters number.tenant = some last ∧
    number.number ≤ last
  fresh : ∀ number ∈ frame.drawn, ∀ committed,
    numbers.counters number.tenant = some committed → committed < number.number
  increasing : frame.drawn.Pairwise Before
  issued : frame.tickets ⊆ frame.drawn
  once : frame.tickets.Nodup

def Unused (stack : List Frame) (number : TicketNumber) : Prop :=
  match stack with
  | [] => { number with process } ∈ numbers.drawn ∧ number ∉ numbers.tickets
  | frame :: _ => number ∈ frame.drawn ∧ number ∉ frame.tickets

/-- What a stage of `Ticket.save` relies on. -/
def StageOk (stack : List Frame) : Stage → Prop
  | .idle => True
  | .getting _ | .creating _ | .refetching _ => stack ≠ []
  | .incrementing tenant => stack ≠ [] ∧ tenant ∈ (top stack).locked
  | .refreshing tenant => stack ≠ [] ∧ ∃ number, (top stack).counters tenant = some number ∧
      Unused process numbers stack { tenant, number }
  | .numbered number => stack ≠ [] ∧ Unused process numbers stack number
  | .inserting number => Unused process numbers stack number

/-- The open blocks, of which an inner one has what an outer one has locked. -/
structure StackOk (stack : List Frame) : Prop where
  frames : ∀ frame ∈ stack, FrameOk process numbers frame
  nested : stack.Pairwise fun inner outer => outer.locked ⊆ inner.locked

structure Promise (worker : Worker) : Prop where
  stack : StackOk process numbers worker.stack
  stage : StageOk process numbers worker.stack worker.stage

end Promises

/-- What a turn of one process means for all others. -/
structure Foreign (process : ℕ) (numbers numbers' : Numbers) : Prop where
  locks : Locks.Respects process numbers.locks numbers'.locks
  counters : ∀ tenant holder, holder ≠ process → numbers.locks tenant = some holder →
    numbers'.counters tenant = numbers.counters tenant
  drawn : numbers.drawn ⊆ numbers'.drawn
  tickets : ∀ number ∈ numbers'.tickets,
    number ∈ numbers.tickets ∨ { number with process } ∈ numbers'.drawn

variable {stage : Stage} {locks : Locks ℕ}

section Turns

variable {process other tenant : ℕ} {numbers numbers' : Numbers} {stack : List Frame}
  {frame : Frame} {number : TicketNumber} {worker : Worker}

theorem Sane.process_eq (sane : Sane numbers) {first second : ℕ}
    (hfirst : { number with process := first } ∈ numbers.drawn)
    (hsecond : { number with process := second } ∈ numbers.drawn) : first = second := by
  have hnodup : (numbers.drawn.map Drawn.toTicketNumber).Nodup := by
    refine sane.increasing.imp fun hbefore heq => ?_
    subst heq
    exact absurd (hbefore rfl) (Nat.lt_irrefl _)
  exact congrArg Drawn.process (List.inj_on_of_nodup_map hnodup hfirst hsecond rfl)

theorem Sane.ticket_le (sane : Sane numbers) (hmem : number ∈ numbers.tickets) :
    ∃ last, numbers.counters number.tenant = some last ∧ number.number ≤ last := by
  obtain ⟨process, hdrawn⟩ := sane.issued number hmem
  exact sane.counted _ hdrawn

theorem Sane.withLocks (sane : Sane numbers) (locks : Locks ℕ) :
    Sane { numbers with locks } :=
  ⟨sane.increasing, sane.counted, sane.issued, sane.once⟩

theorem Foreign.withLocks (hrespects : Locks.Respects process numbers.locks locks) :
    Foreign process numbers { numbers with locks } where
  locks := hrespects
  counters _ _ _ _ := rfl
  drawn := List.Subset.refl _
  tickets _ hmem := .inl hmem

theorem Foreign.refl (process : ℕ) (numbers : Numbers) : Foreign process numbers numbers :=
  Foreign.withLocks (Locks.Respects.refl process numbers.locks)

/-! ### What others do -/

theorem FrameOk.foreign (ok : FrameOk other numbers frame) (hother : other ≠ process)
    (foreign : Foreign process numbers numbers') : FrameOk other numbers' frame where
  locked tenant hmem := foreign.locks tenant other hother (ok.locked tenant hmem)
  written := ok.written
  ahead tenant last committed hlast hcommitted := by
    have hlocked := ok.locked tenant (ok.written tenant last hlast)
    rw [foreign.counters tenant other hother hlocked] at hcommitted
    exact ok.ahead tenant last committed hlast hcommitted
  counted := ok.counted
  fresh number hmem committed hcommitted := by
    obtain ⟨last, hlast, -⟩ := ok.counted number hmem
    have hlocked := ok.locked number.tenant (ok.written number.tenant last hlast)
    rw [foreign.counters number.tenant other hother hlocked] at hcommitted
    exact ok.fresh number hmem committed hcommitted
  increasing := ok.increasing
  issued := ok.issued
  once := ok.once

theorem StackOk.foreign (ok : StackOk other numbers stack) (hother : other ≠ process)
    (foreign : Foreign process numbers numbers') : StackOk other numbers' stack where
  frames frame hmem := (ok.frames frame hmem).foreign hother foreign
  nested := ok.nested

theorem Unused.foreign (unused : Unused other numbers stack number) (hother : other ≠ process)
    (sane : Sane numbers') (foreign : Foreign process numbers numbers') :
    Unused other numbers' stack number := by
  cases stack with
  | cons frame outer => exact unused
  | nil =>
    obtain ⟨hdrawn, hnot⟩ := unused
    refine ⟨foreign.drawn hdrawn, fun hmem => ?_⟩
    rcases foreign.tickets number hmem with hold | hnew
    · exact hnot hold
    · exact hother (sane.process_eq (foreign.drawn hdrawn) hnew)

theorem StageOk.foreign (ok : StageOk other numbers stack stage) (hother : other ≠ process)
    (sane : Sane numbers') (foreign : Foreign process numbers numbers') :
    StageOk other numbers' stack stage := by
  cases stage with
  | refreshing tenant =>
    obtain ⟨hopen, number, hlast, hunused⟩ := ok
    exact ⟨hopen, number, hlast, hunused.foreign hother sane foreign⟩
  | numbered number => exact ⟨ok.1, ok.2.foreign hother sane foreign⟩
  | inserting number => exact Unused.foreign ok hother sane foreign
  | _ => exact ok

theorem Promise.foreign (promise : Promise other numbers worker) (hother : other ≠ process)
    (sane : Sane numbers') (foreign : Foreign process numbers numbers') :
    Promise other numbers' worker where
  stack := promise.stack.foreign hother foreign
  stage := promise.stage.foreign hother sane foreign

/-! ### What a turn does -/

/-- What a turn of one process keeps, and what it means for the others. -/
structure Outcome (process : ℕ) (numbers : Numbers) (after : Numbers × Worker) : Prop where
  sane : Sane after.1
  promise : Promise process after.1 after.2
  foreign : Foreign process numbers after.1

theorem Outcome.stay (sane : Sane numbers) (promise : Promise process numbers worker) :
    Outcome process numbers (numbers, worker) :=
  ⟨sane, promise, Foreign.refl process numbers⟩

theorem frameOk_empty (process : ℕ) (numbers : Numbers) : FrameOk process numbers {} where
  locked _ hmem := absurd hmem List.not_mem_nil
  written _ _ hlast := absurd hlast (Option.some_ne_none _).symm
  ahead _ _ _ hlast := absurd hlast (Option.some_ne_none _).symm
  counted _ hmem := absurd hmem List.not_mem_nil
  fresh _ hmem := absurd hmem List.not_mem_nil
  increasing := List.Pairwise.nil
  issued := List.nil_subset _
  once := List.nodup_nil

theorem StackOk.top_ok (ok : StackOk process numbers stack) :
    FrameOk process numbers (top stack) := by
  cases stack with
  | nil => exact frameOk_empty process numbers
  | cons frame outer => exact ok.frames frame List.mem_cons_self

theorem StackOk.outer (ok : StackOk process numbers (frame :: stack)) :
    StackOk process numbers stack where
  frames outer hmem := ok.frames outer (List.mem_cons_of_mem frame hmem)
  nested := (List.pairwise_cons.mp ok.nested).2

theorem StackOk.locked_subset (ok : StackOk process numbers stack) (hmem : frame ∈ stack) :
    frame.locked ⊆ (top stack).locked := by
  cases stack with
  | nil => cases hmem
  | cons inner outer =>
    rcases List.mem_cons.mp hmem with rfl | houter
    · exact List.Subset.refl _
    · exact (List.pairwise_cons.mp ok.nested).1 frame houter

theorem StackOk.enter (ok : StackOk process numbers stack) :
    StackOk process numbers (enterAtomic stack) where
  frames frame hmem := by
    rcases List.mem_cons.mp hmem with rfl | houter
    · exact ok.top_ok
    · exact ok.frames frame houter
  nested := List.pairwise_cons.mpr ⟨fun _ hmem => ok.locked_subset hmem, ok.nested⟩

/-! ### The end of a block -/

theorem commit_sane (sane : Sane numbers) (ok : FrameOk process numbers frame) :
    Sane (commit process numbers frame) where
  increasing := by
    simp only [commit, List.map_append, List.map_map]
    have hnew : (frame.drawn.map (Drawn.toTicketNumber ∘ fun number => ⟨number, process⟩)) =
        frame.drawn := List.map_id frame.drawn
    rw [hnew]
    refine List.pairwise_append.mpr ⟨sane.increasing, ok.increasing, ?_⟩
    intro old hold new hnew htenant
    obtain ⟨drawn, hdrawn, rfl⟩ := List.mem_map.mp hold
    obtain ⟨last, hlast, hle⟩ := sane.counted drawn hdrawn
    exact Nat.lt_of_le_of_lt hle (ok.fresh new hnew last (htenant ▸ hlast))
  counted drawn hmem := by
    rcases List.mem_append.mp hmem with hold | hnew
    · obtain ⟨last, hlast, hle⟩ := sane.counted drawn hold
      cases hwritten : frame.counters drawn.tenant with
      | none => exact ⟨last, by simp [commit, hwritten, hlast], hle⟩
      | some written =>
        exact ⟨written, by simp [commit, hwritten],
          Nat.le_trans hle (ok.ahead drawn.tenant written last hwritten hlast)⟩
    · obtain ⟨number, hnumber, rfl⟩ := List.mem_map.mp hnew
      obtain ⟨last, hlast, hle⟩ := ok.counted number hnumber
      exact ⟨last, by simp [commit, hlast], hle⟩
  issued number hmem := by
    rcases List.mem_append.mp hmem with hold | hnew
    · obtain ⟨holder, hdrawn⟩ := sane.issued number hold
      exact ⟨holder, List.mem_append_left _ hdrawn⟩
    · exact ⟨process, List.mem_append_right _ (List.mem_map_of_mem (ok.issued hnew))⟩
  once := by
    refine List.nodup_append.mpr ⟨sane.once, ok.once, ?_⟩
    intro number hold new hnew heq
    subst heq
    obtain ⟨last, hlast, hle⟩ := sane.ticket_le hold
    exact absurd (ok.fresh number (ok.issued hnew) last hlast) (Nat.not_lt.mpr hle)

theorem commit_foreign (ok : FrameOk process numbers frame) :
    Foreign process numbers (commit process numbers frame) where
  locks := Locks.keep_respects
  counters tenant holder hholder hlocked := by
    cases hwritten : frame.counters tenant with
    | none => simp [commit, hwritten]
    | some last =>
      rw [ok.locked tenant (ok.written tenant last hwritten), Option.some.injEq] at hlocked
      exact absurd hlocked.symm hholder
  drawn := List.subset_append_left _ _
  tickets number hmem := by
    rcases List.mem_append.mp hmem with hold | hnew
    · exact .inl hold
    · exact .inr (List.mem_append_right _ (List.mem_map_of_mem (ok.issued hnew)))

theorem commit_unused (sane : Sane numbers) (ok : FrameOk process numbers frame)
    (hdrawn : number ∈ frame.drawn) (hnot : number ∉ frame.tickets) :
    Unused process (commit process numbers frame) [] number := by
  refine ⟨List.mem_append_right _ (List.mem_map_of_mem hdrawn), fun hmem => ?_⟩
  rcases List.mem_append.mp hmem with hold | hnew
  · obtain ⟨last, hlast, hle⟩ := sane.ticket_le hold
    exact absurd (ok.fresh number hdrawn last hlast) (Nat.not_lt.mpr hle)
  · exact hnot hnew

/-- The end of a block passes on what has been drawn in it. -/
theorem leave_outcome (sane : Sane numbers) (ok : StackOk process numbers stack)
    (hstage : ∀ after : Numbers × List Frame, (∀ number, stack ≠ [] → Unused process numbers stack number →
      Unused process after.1 after.2 number) → StageOk process after.1 after.2 stage) :
    Outcome process numbers ((leaveAtomic process numbers stack).1,
      { stack := (leaveAtomic process numbers stack).2, stage }) := by
  cases stack with
  | nil => exact .stay sane ⟨ok, hstage (numbers, []) fun _ hopen => absurd rfl hopen⟩
  | cons frame outer =>
    cases outer with
    | nil =>
      have hframe := ok.frames frame List.mem_cons_self
      refine ⟨commit_sane sane hframe, ⟨⟨?_, List.Pairwise.nil⟩, ?_⟩, commit_foreign hframe⟩
      · intro other hmem
        cases hmem
      · exact hstage (commit process numbers frame, []) fun number _ hunused =>
          commit_unused sane hframe hunused.1 hunused.2
    | cons enclosing rest =>
      refine .stay sane ⟨⟨?_, ?_⟩, hstage (numbers, frame :: rest) fun _ _ hunused => hunused⟩
      · intro other hmem
        rcases List.mem_cons.mp hmem with rfl | hrest
        · exact ok.frames _ List.mem_cons_self
        · exact ok.outer.outer.frames other hrest
      · have hnested := List.pairwise_cons.mp ok.nested
        refine List.pairwise_cons.mpr ⟨fun other hmem => ?_, ok.outer.outer.nested⟩
        exact hnested.1 other (List.mem_cons_of_mem enclosing hmem)

theorem abort_outcome (sane : Sane numbers) (ok : StackOk process numbers stack) :
    Outcome process numbers ((abortAtomic process numbers stack).1,
      { stack := (abortAtomic process numbers stack).2 }) := by
  have houter : StackOk process numbers stack.tail := by
    cases stack with
    | nil => exact ok
    | cons frame outer => exact ok.outer
  refine ⟨sane.withLocks _, ⟨⟨?_, houter.nested⟩, trivial⟩,
    Foreign.withLocks Locks.keep_respects⟩
  intro frame hmem
  have hframe := houter.frames frame hmem
  refine { hframe with locked := fun tenant hlocked => ?_ }
  have hkept : (top stack.tail).locked.contains tenant = true :=
    List.contains_iff_mem.mpr (houter.locked_subset hmem hlocked)
  exact (Locks.keep_of_kept hkept).trans (hframe.locked tenant hlocked)

/-! ### The statements of `Ticket.save` -/

theorem FrameOk.withLocks (ok : FrameOk process numbers frame)
    (hheld : ∀ tenant, numbers.locks tenant = some process → locks tenant = some process) :
    FrameOk process { numbers with locks } frame :=
  { ok with locked := fun tenant hmem => hheld tenant (ok.locked tenant hmem) }

theorem StackOk.modify (ok : StackOk process numbers stack) {locks : Locks ℕ}
    (hheld : ∀ tenant, numbers.locks tenant = some process → locks tenant = some process)
    (edit : Frame → Frame) (hframe : FrameOk process { numbers with locks } (edit (top stack)))
    (hlocked : (top stack).locked ⊆ (edit (top stack)).locked) :
    StackOk process { numbers with locks } (modifyTop edit stack) := by
  have houter : StackOk process numbers stack.tail := by
    cases stack with
    | nil => exact ok
    | cons frame outer => exact ok.outer
  refine ⟨fun frame hmem => ?_, List.pairwise_cons.mpr ⟨fun frame hmem => ?_, houter.nested⟩⟩
  · rcases List.mem_cons.mp hmem with rfl | hrest
    · exact hframe
    · exact (houter.frames frame hrest).withLocks hheld
  · exact List.Subset.trans (ok.locked_subset (List.mem_of_mem_tail hmem)) hlocked

theorem visible_eq_some {last : ℕ} (hlast : visible numbers stack tenant = some last) :
    (top stack).counters tenant = some last ∨
      (top stack).counters tenant = none ∧ numbers.counters tenant = some last := by
  unfold visible at hlast
  cases hwritten : (top stack).counters tenant with
  | none => exact .inr ⟨rfl, by simpa [hwritten] using hlast⟩
  | some written => exact .inl (by simpa [hwritten] using hlast)

theorem visible_eq_none (hnone : visible numbers stack tenant = none) :
    (top stack).counters tenant = none ∧ numbers.counters tenant = none :=
  Option.or_eq_none_iff.mp hnone

theorem FrameOk.lockRow (ok : FrameOk process numbers frame) (tenant : ℕ) :
    FrameOk process { numbers with locks := numbers.locks.take process tenant }
      (frame.lockRow tenant) :=
  { ok with
    locked := by
      intro other hmem
      rcases List.mem_cons.mp hmem with rfl | hold
      · exact Locks.take_self
      · exact Locks.take_of_held (ok.locked other hold)
    written := fun other last hlast => List.mem_cons_of_mem tenant (ok.written other last hlast) }

theorem update_eq_some {counters : ℕ → Option ℕ} {other value last : ℕ}
    (hlast : Function.update counters tenant (some value) other = some last) :
    other = tenant ∧ value = last ∨ other ≠ tenant ∧ counters other = some last := by
  by_cases hother : other = tenant
  · subst hother
    rw [Function.update_self, Option.some.injEq] at hlast
    exact .inl ⟨rfl, hlast⟩
  · rw [Function.update_of_ne hother] at hlast
    exact .inr ⟨hother, hlast⟩

theorem FrameOk.createRow (ok : FrameOk process numbers frame)
    (hwritten : frame.counters tenant = none) (hcommitted : numbers.counters tenant = none) :
    FrameOk process { numbers with locks := numbers.locks.take process tenant }
      (frame.createRow tenant) where
  locked := (ok.lockRow tenant).locked
  written other last hlast := by
    rcases update_eq_some hlast with ⟨rfl, -⟩ | ⟨-, hold⟩
    · exact List.mem_cons_self
    · exact List.mem_cons_of_mem tenant (ok.written other last hold)
  ahead other last committed hlast hother := by
    rcases update_eq_some hlast with ⟨rfl, -⟩ | ⟨-, hold⟩
    · rw [hcommitted] at hother
      cases hother
    · exact ok.ahead other last committed hold hother
  counted number hmem := by
    obtain ⟨last, hlast, hle⟩ := ok.counted number hmem
    have hother : number.tenant ≠ tenant := by
      rintro rfl
      rw [hwritten] at hlast
      cases hlast
    exact ⟨last, (Function.update_of_ne hother ..).trans hlast, hle⟩
  fresh := ok.fresh
  increasing := ok.increasing
  issued := ok.issued
  once := ok.once

/-- The next number, past what is committed and past what the block has drawn. -/
theorem FrameOk.increment (ok : FrameOk process numbers frame) {last : ℕ}
    (hlocked : tenant ∈ frame.locked)
    (hcommitted : ∀ committed, numbers.counters tenant = some committed → committed ≤ last)
    (hdrawn : ∀ number ∈ frame.drawn, number.tenant = tenant → number.number ≤ last) :
    FrameOk process numbers (frame.increment tenant last) where
  locked := ok.locked
  written other value hvalue := by
    rcases update_eq_some hvalue with ⟨rfl, -⟩ | ⟨-, hold⟩
    · exact hlocked
    · exact ok.written other value hold
  ahead other value committed hvalue hother := by
    rcases update_eq_some hvalue with ⟨rfl, rfl⟩ | ⟨-, hold⟩
    · exact Nat.le_succ_of_le (hcommitted committed hother)
    · exact ok.ahead other value committed hold hother
  counted number hmem := by
    rcases List.mem_append.mp hmem with hold | hnew
    · by_cases htenant : number.tenant = tenant
      · exact ⟨last + 1, htenant ▸ Function.update_self ..,
          Nat.le_succ_of_le (hdrawn number hold htenant)⟩
      · obtain ⟨value, hvalue, hle⟩ := ok.counted number hold
        exact ⟨value, (Function.update_of_ne htenant ..).trans hvalue, hle⟩
    · rw [List.mem_singleton.mp hnew]
      exact ⟨last + 1, Function.update_self .., Nat.le_refl _⟩
  fresh number hmem committed hother := by
    rcases List.mem_append.mp hmem with hold | hnew
    · exact ok.fresh number hold committed hother
    · rw [List.mem_singleton.mp hnew] at hother ⊢
      exact Nat.lt_succ_of_le (hcommitted committed hother)
  increasing := by
    refine List.pairwise_append.mpr ⟨ok.increasing, List.pairwise_singleton .., ?_⟩
    intro old hold new hnew htenant
    rw [List.mem_singleton.mp hnew] at htenant ⊢
    exact Nat.lt_succ_of_le (hdrawn old hold htenant)
  issued := List.Subset.trans ok.issued (List.subset_append_left _ _)
  once := ok.once

theorem FrameOk.insertTicket (ok : FrameOk process numbers frame) (hdrawn : number ∈ frame.drawn)
    (hnot : number ∉ frame.tickets) : FrameOk process numbers (frame.insertTicket number) :=
  { ok with
    issued := List.append_subset.mpr ⟨ok.issued, List.cons_subset.mpr ⟨hdrawn, List.nil_subset _⟩⟩
    once := List.nodup_append.mpr ⟨ok.once, List.nodup_singleton number, by
      intro old hold new hnew heq
      rw [List.mem_singleton.mp hnew] at heq
      exact hnot (heq ▸ hold)⟩ }

section Visible

variable {last : ℕ} (ok : StackOk process numbers stack)
  (hlast : visible numbers stack tenant = some last)

include ok hlast

theorem committed_le (committed : ℕ) (hcommitted : numbers.counters tenant = some committed) :
    committed ≤ last := by
  rcases visible_eq_some hlast with hwritten | ⟨-, hsame⟩
  · exact ok.top_ok.ahead tenant last committed hwritten hcommitted
  · rw [hcommitted, Option.some.injEq] at hsame
    exact Nat.le_of_eq hsame

theorem drawn_le (number : TicketNumber) (hmem : number ∈ (top stack).drawn)
    (htenant : number.tenant = tenant) : number.number ≤ last := by
  obtain ⟨written, hwritten, hle⟩ := ok.top_ok.counted number hmem
  rw [htenant] at hwritten
  rcases visible_eq_some hlast with hsame | ⟨hnone, -⟩
  · rw [hwritten, Option.some.injEq] at hsame
    exact hsame ▸ hle
  · rw [hwritten] at hnone
    cases hnone

end Visible

theorem lockRow_outcome (sane : Sane numbers) (ok : StackOk process numbers stack)
    {waiting : Stage} (hwaiting : StageOk process numbers stack waiting) :
    Outcome process numbers (lockRow process numbers tenant waiting stack) := by
  unfold lockRow
  split
  · rename_i hfree
    refine ⟨sane.withLocks _, ⟨?_, ?_⟩, Foreign.withLocks (Locks.take_respects hfree)⟩
    · exact ok.modify (fun _ => Locks.take_of_held) (Frame.lockRow · tenant)
        (ok.top_ok.lockRow tenant) (List.subset_cons_self ..)
    · exact ⟨List.cons_ne_nil _ _, List.mem_cons_self⟩
  · exact .stay sane ⟨ok, hwaiting⟩

theorem raise_outcome (sane : Sane numbers) (ok : StackOk process numbers stack) (stage : Stage) :
    Outcome process numbers (raise process numbers stack stage) := by
  cases stage with
  | idle => exact .stay sane ⟨ok, trivial⟩
  | inserting number => exact .stay sane ⟨ok, trivial⟩
  | _ => exact abort_outcome sane ok

theorem insert_outcome (sane : Sane numbers) (ok : StackOk process numbers stack)
    (hunused : Unused process numbers stack number) :
    Outcome process numbers (proceed process numbers stack (.inserting number)) := by
  cases stack with
  | nil =>
    obtain ⟨hdrawn, hnot⟩ := hunused
    refine ⟨⟨sane.increasing, sane.counted, ?_, ?_⟩, ⟨⟨nofun, List.Pairwise.nil⟩, trivial⟩,
      ⟨Locks.Respects.refl process numbers.locks, fun _ _ _ _ => rfl, List.Subset.refl _, ?_⟩⟩
    · intro other hmem
      rcases List.mem_append.mp hmem with hold | hnew
      · exact sane.issued other hold
      · rw [List.mem_singleton.mp hnew]
        exact ⟨process, hdrawn⟩
    · refine List.nodup_append.mpr ⟨sane.once, List.nodup_singleton number, ?_⟩
      intro old hold new hnew heq
      rw [List.mem_singleton.mp hnew] at heq
      exact hnot (heq ▸ hold)
    · intro other hmem
      rcases List.mem_append.mp hmem with hold | hnew
      · exact .inl hold
      · rw [List.mem_singleton.mp hnew]
        exact .inr hdrawn
  | cons frame outer =>
    have hframe := (ok.frames frame List.mem_cons_self).insertTicket hunused.1 hunused.2
    refine .stay sane ⟨⟨fun other hmem => ?_, ?_⟩, trivial⟩
    · rcases List.mem_cons.mp hmem with rfl | hrest
      · exact hframe
      · exact ok.frames other (List.mem_cons_of_mem frame hrest)
    · exact List.pairwise_cons.mpr (List.pairwise_cons.mp ok.nested)

theorem proceed_outcome (sane : Sane numbers) (ok : StackOk process numbers stack)
    (hstage : StageOk process numbers stack stage) :
    Outcome process numbers (proceed process numbers stack stage) := by
  cases stage with
  | idle => exact .stay sane ⟨ok, trivial⟩
  | getting tenant =>
    simp only [proceed]
    cases visible numbers stack tenant with
    | none => exact .stay sane ⟨ok, hstage⟩
    | some last => exact lockRow_outcome sane ok hstage
  | creating tenant =>
    simp only [proceed]
    cases hvisible : visible numbers stack tenant with
    | some last => exact .stay sane ⟨ok, hstage⟩
    | none =>
      obtain ⟨hwritten, hcommitted⟩ := visible_eq_none hvisible
      dsimp only
      split
      · rename_i hfree
        refine ⟨sane.withLocks _, ⟨?_, ?_⟩, Foreign.withLocks (Locks.take_respects hfree)⟩
        · exact ok.modify (fun _ => Locks.take_of_held) (Frame.createRow · tenant)
            (ok.top_ok.createRow hwritten hcommitted) (List.subset_cons_self ..)
        · exact ⟨List.cons_ne_nil _ _, List.mem_cons_self⟩
      · exact .stay sane ⟨ok, hstage⟩
  | refetching tenant =>
    simp only [proceed]
    cases visible numbers stack tenant with
    | none => exact raise_outcome sane ok _
    | some last => exact lockRow_outcome sane ok hstage
  | incrementing tenant =>
    obtain ⟨-, hlocked⟩ := hstage
    simp only [proceed]
    cases hvisible : visible numbers stack tenant with
    | none => exact raise_outcome sane ok _
    | some last =>
      have hdrawn := drawn_le ok hvisible
      have hframe := ok.top_ok.increment hlocked (committed_le ok hvisible) hdrawn
      refine .stay sane ⟨?_, List.cons_ne_nil _ _, last + 1, Function.update_self .., ?_, ?_⟩
      · exact ok.modify (fun _ hheld => hheld) (Frame.increment · tenant last) hframe
          (List.Subset.refl _)
      · exact List.mem_append_right _ List.mem_cons_self
      · intro hmem
        exact absurd (hdrawn _ (ok.top_ok.issued hmem) rfl) (Nat.not_succ_le_self last)
  | refreshing tenant =>
    obtain ⟨hopen, number, hnumber, hunused⟩ := hstage
    have hvisible : visible numbers stack tenant = some number := by
      rw [visible, hnumber, Option.some_or]
    simp only [proceed, hvisible]
    exact .stay sane ⟨ok, hopen, hunused⟩
  | numbered number =>
    exact leave_outcome sane ok fun _ hpassed => hpassed number hstage.1 hstage.2
  | inserting number => exact insert_outcome sane ok hstage

theorem act_outcome (sane : Sane numbers) (promise : Promise process numbers worker)
    (action : Action) : Outcome process numbers (act process numbers worker action) := by
  obtain ⟨stack, stage⟩ := worker
  obtain ⟨ok, hstage⟩ := promise
  cases action with
  | proceed => exact proceed_outcome sane ok hstage
  | fail => exact raise_outcome sane ok stage
  | enter =>
    cases stage with
    | idle => exact .stay sane ⟨ok.enter, trivial⟩
    | _ => exact .stay sane ⟨ok, hstage⟩
  | leave =>
    cases stage with
    | idle => exact leave_outcome sane ok fun _ _ => trivial
    | _ => exact .stay sane ⟨ok, hstage⟩
  | abort =>
    cases stage with
    | idle => exact abort_outcome sane ok
    | _ => exact .stay sane ⟨ok, hstage⟩
  | save tenant =>
    cases stage with
    | idle => exact .stay sane ⟨ok.enter, List.cons_ne_nil _ _⟩
    | _ => exact .stay sane ⟨ok, hstage⟩

theorem turns_sound : World.Sound act (fun _ _ => True) Sane Promise where
  own world process action keeps _ := by
    have outcome := act_outcome keeps.shared (keeps.locals process) action
    exact ⟨outcome.sane, outcome.promise⟩
  others world process action other keeps _ hother := by
    have outcome := act_outcome keeps.shared (keeps.locals process) action
    exact (keeps.locals other).foreign hother outcome.sane outcome.foreign

end Turns

/-! ## Whole runs -/

theorem start_keeps : World.Keeps Sane Promise start where
  shared := ⟨List.Pairwise.nil, nofun, nofun, List.nodup_nil⟩
  locals _ := ⟨⟨nofun, List.Pairwise.nil⟩, trivial⟩

theorem handedOut_increasing {numbers : Numbers} (sane : Sane numbers) (tenant : ℕ) :
    (handedOut numbers tenant).Pairwise (· < ·) := by
  have hdrawn : numbers.drawn.Pairwise fun a b => Before a.toTicketNumber b.toTicketNumber :=
    List.pairwise_map.mp sane.increasing
  refine List.pairwise_map.mpr ((hdrawn.filter _).imp_of_mem ?_)
  intro first second hfirst hsecond hbefore
  have htenant : ∀ {drawn : Drawn}, drawn ∈ numbers.drawn.filter (fun drawn =>
      drawn.tenant == tenant && numbers.tickets.contains drawn.toTicketNumber) →
        drawn.tenant = tenant := by
    intro drawn hmem
    rw [List.mem_filter, Bool.and_eq_true] at hmem
    exact eq_of_beq hmem.2.1
  exact hbefore ((htenant hfirst).trans (htenant hsecond).symm)

theorem mem_handedOut {numbers : Numbers} (sane : Sane numbers) {number : TicketNumber}
    (hmem : number ∈ numbers.tickets) : number.number ∈ handedOut numbers number.tenant := by
  obtain ⟨process, hdrawn⟩ := sane.issued number hmem
  refine List.mem_map.mpr ⟨_, List.mem_filter.mpr ⟨hdrawn, ?_⟩, rfl⟩
  rw [Bool.and_eq_true]
  exact ⟨beq_self_eq_true _, List.contains_iff_mem.mpr hmem⟩

/--
However the saves, the transactions around them and their ends interleave, no two committed
tickets of a tenant have one number, and the numbers of its tickets increase in the order in
which the transactions that drew them were committed.
-/
theorem ticket_numbers_unique (events : List (ℕ × Action)) :
    let numbers := (run (World.turn act) start events).shared
    numbers.tickets.Nodup ∧
      (∀ number ∈ numbers.tickets, number.number ∈ handedOut numbers number.tenant) ∧
        ∀ tenant, (handedOut numbers tenant).Pairwise (· < ·) := by
  have hkeeps := turns_sound.run start_keeps events
    (every_of_forall (fun _ _ => trivial) start events)
  exact ⟨hkeeps.shared.once, fun _ => mem_handedOut hkeeps.shared,
    handedOut_increasing hkeeps.shared⟩

end Kanzan.Tickets.Counter

import Mathlib.Data.List.Perm.Basic
import Kanzan.Support.Runs

/-!
# Outbound email tasks

The messages of one enqueued email task and its executions, step by step: what an
execution reads and prepares, the submission to the mail server, and the record that is
written after it.  A worker may stop at any step, upon which the broker delivers the
message again; an exception may be raised by any step.
-/

namespace Kanzan.Tickets

open Support

/-! ## Executions -/

/-- The three tasks. -/
inductive EmailTask where
  /-- `send_ticket_reply_email_task` -/
  | reply
  /-- `send_ticket_created_email_task` -/
  | created
  /-- `send_ticket_email_task` -/
  | generic
  deriving DecidableEq, Repr

/-- Whether the service function that a task calls turns exceptions of `send_ticket_email`
into a return value. -/
def EmailTask.swallows : EmailTask → Bool
  | .reply | .created => true
  | .generic => false

/-- `max_retries` of all three. -/
def maxRetries : ℕ := 3

/-- The next step of an execution. -/
inductive EmailStage where
  /-- The task loads the ticket and the tenant. -/
  | loading
  /-- The service function looks for the address of the contact and renders the texts. -/
  | preparing
  /-- `send_ticket_email` looks at the address, makes a Message-ID and builds the headers. -/
  | building
  /-- `email.send(fail_silently=False)`. -/
  | submitting (messageId : ℕ)
  /-- `record_outbound_email`. -/
  | recording (messageId : ℕ)
  /-- The task returns, and the message is acknowledged. -/
  | returning
  /-- `self.retry(exc=exc)` publishes the next message, if retries remain. -/
  | retrying
  /-- The retry has been published, and the message is acknowledged. -/
  | retried
  deriving DecidableEq, Repr

def EmailStage.isSubmitting : EmailStage → Bool
  | .submitting _ => true
  | _ => false

structure EmailExecution where
  retries : ℕ
  stage : EmailStage := .loading
  submitted : Bool := false
  deriving DecidableEq, Repr

/-- How a step goes: as it should, to an early return (no such ticket, no address, an
undeliverable one), or into an exception. -/
inductive StepAnswer where
  | succeeds
  | returns
  | raises
  deriving DecidableEq, Repr

/-- What the broker is told about a message. -/
inductive TaskReport where
  | done
  | retry
  | failed
  deriving DecidableEq, Repr

/--
The messages at the broker by their number of retries, the executions under way, the
Message-IDs the mail server has accepted and those on record, and the reports.
-/
structure Outbox where
  queue : List ℕ := [0]
  running : List EmailExecution := []
  accepted : List ℕ := []
  records : List ℕ := []
  reports : List TaskReport := []
  deriving DecidableEq, Repr

inductive OutboxEvent where
  /-- A worker takes a message. -/
  | start (message : ℕ)
  /-- An execution takes its next step; a Message-ID made in it is that one. -/
  | advance (execution : ℕ) (answer : StepAnswer) (messageId : ℕ)
  /-- A worker stops, and its message is delivered again. -/
  | stop (execution : ℕ)
  deriving DecidableEq, Repr

/-- Where an exception inside `send_ticket_email` leads. -/
def EmailTask.caught (task : EmailTask) : EmailStage :=
  if task.swallows then .returning else .retrying

def EmailTask.next (task : EmailTask) (answer : StepAnswer) (messageId : ℕ) :
    EmailStage → EmailStage
  | .loading =>
    if answer = .succeeds then if task = .generic then .building else .preparing
    else .returning
  | .preparing =>
    match answer with
    | .succeeds => .building
    | .returns => .returning
    | .raises => .retrying
  | .building =>
    match answer with
    | .succeeds => .submitting messageId
    | .returns => .returning
    | .raises => task.caught
  | .submitting messageId => if answer = .raises then task.caught else .recording messageId
  | .recording _ => if answer = .raises then task.caught else .returning
  | .retrying => .retried
  | .returning => .returning
  | .retried => .retried

def EmailExecution.report (execution : EmailExecution) (answer : StepAnswer) : Option TaskReport :=
  match execution.stage with
  | .loading => if answer = .raises then some .failed else none
  | .returning => some .done
  | .retrying => if execution.retries < maxRetries then none else some .failed
  | .retried => some .retry
  | .preparing | .building | .submitting _ | .recording _ => none

namespace Outbox

variable (task : EmailTask) (outbox : Outbox)

/-- What a step writes: the mail server's acceptance, the record, the retry's message.  A
record whose key is taken is not written again. -/
def written (execution : EmailExecution) (answer : StepAnswer) : Outbox :=
  match execution.stage, answer with
  | .submitting _, .raises | .recording _, .raises => outbox
  | .submitting messageId, _ => { outbox with accepted := outbox.accepted ++ [messageId] }
  | .recording messageId, _ =>
    if messageId ∈ outbox.records then outbox
    else { outbox with records := outbox.records ++ [messageId] }
  | .retrying, _ =>
    if execution.retries < maxRetries then
      { outbox with queue := outbox.queue ++ [execution.retries + 1] }
    else outbox
  | _, _ => outbox

def moved (execution : EmailExecution) (answer : StepAnswer) (messageId : ℕ) : EmailExecution :=
  { execution with
    stage := task.next answer messageId execution.stage
    submitted := execution.submitted ||
      match execution.stage with
      | .submitting _ => answer ≠ .raises
      | _ => false }

def step (outbox : Outbox) : OutboxEvent → Outbox
  | .start message =>
    match outbox.queue[message]? with
    | none => outbox
    | some retries =>
      { outbox with
        queue := outbox.queue.eraseIdx message
        running := outbox.running ++ [{ retries }] }
  | .advance index answer messageId =>
    match outbox.running[index]? with
    | none => outbox
    | some execution =>
      match execution.report answer with
      | some report =>
        { outbox with
          running := outbox.running.eraseIdx index
          reports := outbox.reports ++ [report] }
      | none =>
        { outbox.written execution answer with
          running := outbox.running.set index (moved task execution answer messageId) }
  | .stop index =>
    match outbox.running[index]? with
    | none => outbox
    | some execution =>
      { outbox with
        queue := outbox.queue ++ [execution.retries]
        running := outbox.running.eraseIdx index }

end Outbox

/-! ## What the tasks should do -/

section Delivery

variable (task : EmailTask)

/--
A submission comes before any that was accepted; and if it fails while retries remain, the
task is going to be retried.
-/
def DeliversOnce (outbox : Outbox) (event : OutboxEvent) : Prop :=
  match event with
  | .advance index answer _ =>
    ∀ execution ∈ outbox.running[index]?, execution.stage.isSubmitting = true →
      outbox.accepted = [] ∧
      (answer = .raises → execution.retries < maxRetries →
        (outbox.step task event).running[index]? = some { execution with stage := .retrying })
  | .start _ | .stop _ => True

instance (outbox : Outbox) (event : OutboxEvent) : Decidable (DeliversOnce task outbox event) :=
  match event with
  | .advance .. => inferInstanceAs (Decidable (∀ execution ∈ outbox.running[_]?, _ → _ ∧ _))
  | .start _ | .stop _ => isTrue trivial

/--
No worker stops between an accepted submission, or the publication of a retry, and the
acknowledgement of its message; and while retries remain, no submission of a reply or
confirmation fails, and no record of another email.
-/
def sparesDelivery (outbox : Outbox) (event : OutboxEvent) : Bool :=
  match event with
  | .start _ => true
  | .stop index =>
    (outbox.running[index]?).all fun execution =>
      !execution.submitted && execution.stage ≠ .retried
  | .advance index answer _ =>
    (outbox.running[index]?).all fun execution =>
      match execution.stage with
      | .submitting _ => answer ≠ .raises || !task.swallows || maxRetries ≤ execution.retries
      | .recording _ => answer ≠ .raises || task.swallows || maxRetries ≤ execution.retries
      | _ => true

end Delivery

/-! ## The invariant -/

section Counts

variable {α : Type} {items : List α} {index : ℕ} {item : α}

theorem countP_eraseIdx_add (p : α → Bool) (hitem : items[index]? = some item) :
    items.countP p = (items.eraseIdx index).countP p + if p item then 1 else 0 := by
  obtain ⟨hlt, hget⟩ := List.getElem?_eq_some_iff.mp hitem
  rw [← (List.getElem_cons_eraseIdx_perm hlt).countP_eq, List.countP_cons, hget]

theorem countP_set_add (p : α → Bool) (hitem : items[index]? = some item) (other : α) :
    (items.set index other).countP p + (if p item then 1 else 0) =
      items.countP p + if p other then 1 else 0 := by
  obtain ⟨hlt, hget⟩ := List.getElem?_eq_some_iff.mp hitem
  have hcount := countP_eraseIdx_add p hitem
  rw [List.countP_set hlt, hget]
  split <;> split <;> simp_all

end Counts

def EmailExecution.isLive (execution : EmailExecution) : Bool := execution.stage ≠ .retried

/-- An execution before its submission. -/
structure EmailExecution.Unsent (execution : EmailExecution) : Prop where
  submitted : execution.submitted = false
  stage : ∀ messageId, execution.stage ≠ .recording messageId

def EmailExecution.Spent (execution : EmailExecution) : Prop :=
  execution.stage = .retried ∨ execution.submitted = true ∧
    ((∃ messageId, execution.stage = .recording messageId) ∨ execution.stage = .returning ∨
      execution.stage = .retrying ∧ maxRetries ≤ execution.retries)

/-- Nothing has been accepted and one copy of the message is left, or nothing is left that
could submit it. -/
inductive Outbox.Once (outbox : Outbox) : Prop where
  | before (accepted : outbox.accepted = [])
      (unsent : ∀ execution ∈ outbox.running, execution.Unsent)
      (single : outbox.queue.length + outbox.running.countP EmailExecution.isLive ≤ 1)
  | after (queue : outbox.queue = [])
      (spent : ∀ execution ∈ outbox.running, execution.Spent)

variable {task : EmailTask} {outbox : Outbox}
variable {execution after : EmailExecution} {event : OutboxEvent}

theorem once_start (once : outbox.Once) (message : ℕ) :
    (outbox.step task (.start message)).Once := by
  dsimp only [Outbox.step]
  split
  · exact once
  rename_i retries hmessage
  obtain ⟨hlt, _⟩ := List.getElem?_eq_some_iff.mp hmessage
  cases once with
  | before accepted unsent single =>
    refine .before accepted (fun execution hexecution => ?_) ?_
    · rcases List.mem_append.mp hexecution with hold | hnew
      · exact unsent execution hold
      · rw [List.mem_singleton] at hnew
        subst hnew
        exact ⟨rfl, nofun⟩
    · have hlength := List.length_eraseIdx_add_one hlt
      rw [List.countP_append, List.countP_singleton]
      dsimp only
      split <;> omega
  | after queue spent =>
    rw [queue] at hmessage
    cases hmessage

theorem once_stop (once : outbox.Once) {index : ℕ}
    (spares : sparesDelivery task outbox (.stop index) = true) :
    (outbox.step task (.stop index)).Once := by
  dsimp only [Outbox.step]
  split
  · exact once
  rename_i execution hexecution
  simp only [sparesDelivery, hexecution, Option.all_some, Bool.and_eq_true, Bool.not_eq_true',
    decide_eq_true_eq] at spares
  have hmem := List.mem_of_getElem? hexecution
  cases once with
  | before accepted unsent single =>
    refine .before accepted (fun other hother => unsent other (List.mem_of_mem_eraseIdx hother)) ?_
    have hcount := countP_eraseIdx_add EmailExecution.isLive hexecution
    rw [if_pos (by simpa [EmailExecution.isLive] using spares.2)] at hcount
    dsimp only
    rw [List.length_append, List.length_singleton]
    omega
  | after queue spent =>
    rcases spent execution hmem with hretried | ⟨hsubmitted, _⟩
    · exact absurd hretried spares.2
    · rw [spares.1] at hsubmitted
      cases hsubmitted

theorem once_report (once : outbox.Once) (index : ℕ) (report : TaskReport) :
    Outbox.Once
      { outbox with
        running := outbox.running.eraseIdx index
        reports := outbox.reports ++ [report] } := by
  cases once with
  | before accepted unsent single =>
    refine .before accepted (fun other hother => unsent other (List.mem_of_mem_eraseIdx hother)) ?_
    have hcount := (List.eraseIdx_sublist outbox.running index).countP_le (p := EmailExecution.isLive)
    dsimp only
    omega
  | after queue spent =>
    exact .after queue fun other hother => spent other (List.mem_of_mem_eraseIdx hother)

theorem once_moved {index : ℕ} {written : Outbox}
    (hexecution : outbox.running[index]? = some execution)
    (unsent : ∀ other ∈ outbox.running, other.Unsent) (hafter : after.Unsent)
    (haccepted : written.accepted = [])
    (hsingle : written.queue.length + (if after.isLive then 1 else 0) +
        outbox.running.countP EmailExecution.isLive ≤
      1 + if execution.isLive then 1 else 0) :
    Outbox.Once { written with running := outbox.running.set index after } := by
  refine .before haccepted (fun other hother => ?_) ?_
  · rcases List.mem_or_eq_of_mem_set hother with hold | rfl
    · exact unsent other hold
    · exact hafter
  · have hcount := countP_set_add EmailExecution.isLive hexecution after
    dsimp only
    omega

/-- When the only live execution gets its submission accepted, nothing else can submit. -/
theorem spent_of_accepted {index : ℕ} (hexecution : outbox.running[index]? = some execution)
    (single : outbox.queue.length + outbox.running.countP EmailExecution.isLive ≤ 1)
    (live : execution.isLive = true) (hafter : after.Spent) :
    outbox.queue = [] ∧ ∀ other ∈ outbox.running.set index after, other.Spent := by
  have hcount := countP_eraseIdx_add EmailExecution.isLive hexecution
  rw [if_pos live] at hcount
  obtain ⟨hlt, hget⟩ := List.getElem?_eq_some_iff.mp hexecution
  refine ⟨List.eq_nil_of_length_eq_zero (by omega), fun other hother => ?_⟩
  rcases List.mem_iff_getElem.mp hother with ⟨position, hposition, rfl⟩
  rw [List.getElem_set]
  split
  · exact hafter
  · rename_i hne
    rw [List.length_set] at hposition
    have hmem : outbox.running[position] ∈ outbox.running.eraseIdx index := by
      rw [List.mem_eraseIdx_iff_getElem]
      exact ⟨position, hposition, fun h => hne h.symm, rfl⟩
    have hdead : (outbox.running.eraseIdx index).countP EmailExecution.isLive = 0 := by omega
    have hretried := List.countP_eq_zero.mp hdead _ hmem
    left
    simpa [EmailExecution.isLive] using hretried

theorem once_advance (once : outbox.Once) {index messageId : ℕ} {answer : StepAnswer}
    (spares : sparesDelivery task outbox (.advance index answer messageId) = true) :
    (outbox.step task (.advance index answer messageId)).Once := by
  dsimp only [Outbox.step]
  split
  · exact once
  rename_i execution hexecution
  split
  · exact once_report once index _
  rename_i hreport
  simp only [sparesDelivery, hexecution, Option.all_some] at spares
  have hmem := List.mem_of_getElem? hexecution
  cases once with
  | before accepted unsent single =>
    have hunsent := unsent execution hmem
    have hquiet : ∀ stage : EmailStage, task.next answer messageId execution.stage = stage →
        stage ≠ .retried → (∀ messageId, stage ≠ .recording messageId) →
        execution.isLive = true → outbox.written execution answer = outbox →
        (Outbox.moved task execution answer messageId).submitted = false →
        Outbox.Once { outbox.written execution answer with
          running := outbox.running.set index
            (Outbox.moved task execution answer messageId) } := by
      intro stage hnext hretried hrecording hlive hwritten hsubmitted
      have hstage : (Outbox.moved task execution answer messageId).stage = stage := hnext
      have hafter : (Outbox.moved task execution answer messageId).isLive = true := by
        simp [EmailExecution.isLive, hstage, hretried]
      rw [hwritten]
      refine once_moved hexecution unsent ⟨hsubmitted, ?_⟩ accepted ?_
      · rw [hstage]
        exact hrecording
      · rw [if_pos hafter, if_pos hlive]
        omega
    have hcaught : task.caught ≠ .retried ∧ ∀ messageId, task.caught ≠ .recording messageId := by
      cases task <;> exact ⟨nofun, nofun⟩
    cases hstage : execution.stage with
    | loading =>
      have hkept : (Outbox.moved task execution answer messageId).submitted = false := by
        simp [Outbox.moved, hstage, hunsent.submitted]
      apply hquiet _ rfl
      · rw [hstage]
        dsimp only [EmailTask.next]
        split
        · split <;> nofun
        · nofun
      · rw [hstage]
        dsimp only [EmailTask.next]
        split
        · split <;> nofun
        · nofun
      · simp [EmailExecution.isLive, hstage]
      · simp [Outbox.written, hstage]
      · exact hkept
    | preparing =>
      have hkept : (Outbox.moved task execution answer messageId).submitted = false := by
        simp [Outbox.moved, hstage, hunsent.submitted]
      apply hquiet _ rfl
      · rw [hstage]
        cases answer <;> nofun
      · rw [hstage]
        cases answer <;> nofun
      · simp [EmailExecution.isLive, hstage]
      · simp [Outbox.written, hstage]
      · exact hkept
    | building =>
      have hkept : (Outbox.moved task execution answer messageId).submitted = false := by
        simp [Outbox.moved, hstage, hunsent.submitted]
      apply hquiet _ rfl
      · rw [hstage]
        cases answer with
        | succeeds | returns => nofun
        | raises => exact hcaught.1
      · rw [hstage]
        cases answer with
        | succeeds | returns => nofun
        | raises => exact hcaught.2
      · simp [EmailExecution.isLive, hstage]
      · simp [Outbox.written, hstage]
      · exact hkept
    | submitting sent =>
      have hlive : execution.isLive = true := by simp [EmailExecution.isLive, hstage]
      by_cases hraises : answer = .raises
      · apply hquiet task.caught _ hcaught.1 hcaught.2 hlive
        · simp [Outbox.written, hstage, hraises]
        · simp [Outbox.moved, hstage, hraises, hunsent.submitted]
        · simp [EmailTask.next, hstage, hraises]
      · have hspent : (Outbox.moved task execution answer messageId).Spent := by
          right
          refine ⟨?_, .inl ⟨sent, ?_⟩⟩
          · simp [Outbox.moved, hstage, hraises]
          · simp [Outbox.moved, EmailTask.next, hstage, hraises]
        obtain ⟨hqueue, hrunning⟩ := spent_of_accepted hexecution single hlive hspent
        refine .after ?_ hrunning
        unfold Outbox.written
        rw [hstage]
        cases answer with
        | succeeds | returns => exact hqueue
        | raises => exact absurd rfl hraises
    | recording sent => exact absurd hstage (hunsent.stage sent)
    | returning =>
      rw [EmailExecution.report, hstage] at hreport
      cases hreport
    | retrying =>
      rw [EmailExecution.report, hstage] at hreport
      dsimp only at hreport
      split at hreport
      · rename_i hretries
        have hlive : execution.isLive = true := by simp [EmailExecution.isLive, hstage]
        have hafter : (Outbox.moved task execution answer messageId).stage = .retried := by
          simp [Outbox.moved, EmailTask.next, hstage]
        have hdead : (Outbox.moved task execution answer messageId).isLive = false := by
          simp [EmailExecution.isLive, hafter]
        have hwritten : outbox.written execution answer =
            { outbox with queue := outbox.queue ++ [execution.retries + 1] } := by
          unfold Outbox.written
          rw [hstage]
          simp [hretries]
        rw [hwritten]
        refine once_moved hexecution unsent ⟨?_, ?_⟩ accepted ?_
        · simp [Outbox.moved, hstage, hunsent.submitted]
        · rw [hafter]
          nofun
        · rw [hdead, if_neg Bool.false_ne_true, if_pos hlive, List.length_append,
            List.length_singleton]
          omega
      · cases hreport
    | retried =>
      rw [EmailExecution.report, hstage] at hreport
      cases hreport
  | after queue spent =>
    rcases spent execution hmem with hretried | ⟨hsubmitted, hstage⟩
    · rw [EmailExecution.report, hretried] at hreport
      cases hreport
    rcases hstage with ⟨sent, hstage⟩ | hstage | ⟨hstage, hretries⟩
    · have hspent : (Outbox.moved task execution answer messageId).Spent := by
        right
        refine ⟨by simp [Outbox.moved, hsubmitted], .inr ?_⟩
        unfold Outbox.moved
        dsimp only
        rw [hstage]
        dsimp only [EmailTask.next]
        split
        · rename_i hraises
          rw [hstage] at spares
          simp only [hraises, ne_eq, not_true_eq_false, decide_false, Bool.false_or,
            Bool.or_eq_true, decide_eq_true_eq] at spares
          unfold EmailTask.caught
          split
          · exact .inl rfl
          · rename_i hswallows
            exact .inr ⟨rfl, spares.resolve_left hswallows⟩
        · exact .inl rfl
      refine .after ?_ fun other hother => ?_
      · unfold Outbox.written
        rw [hstage]
        cases answer with
        | raises => exact queue
        | succeeds | returns =>
          dsimp only
          split <;> exact queue
      · rcases List.mem_or_eq_of_mem_set hother with hold | rfl
        · exact spent other hold
        · exact hspent
    · rw [EmailExecution.report, hstage] at hreport
      cases hreport
    · rw [EmailExecution.report, hstage] at hreport
      dsimp only at hreport
      rw [if_neg (Nat.not_lt.mpr hretries)] at hreport
      cases hreport

theorem once_step (once : outbox.Once) (spares : sparesDelivery task outbox event = true) :
    (outbox.step task event).Once := by
  cases event with
  | start message => exact once_start once message
  | advance index answer messageId => exact once_advance once spares
  | stop index => exact once_stop once spares

/-- What is submitted is submitted first, and a failure leads to a retry. -/
theorem deliversOnce_of_once (once : outbox.Once) (spares : sparesDelivery task outbox event = true)
    : DeliversOnce task outbox event := by
  cases event with
  | start message => trivial
  | stop index => trivial
  | advance index answer messageId =>
    intro execution hexecution hsubmitting
    rw [Option.mem_def] at hexecution
    obtain ⟨sent, hstage⟩ : ∃ sent, execution.stage = .submitting sent := by
      cases hstage : execution.stage with
      | submitting sent => exact ⟨sent, rfl⟩
      | loading | preparing | building | recording _ | returning | retrying | retried =>
        rw [hstage] at hsubmitting
        cases hsubmitting
    have hmem := List.mem_of_getElem? hexecution
    refine ⟨?_, fun hraises hretries => ?_⟩
    · cases once with
      | before accepted unsent single => exact accepted
      | after queue spent =>
        rcases spent execution hmem with h | ⟨_, ⟨_, h⟩ | h | ⟨h, _⟩⟩ <;> rw [hstage] at h <;>
          cases h
    · simp only [sparesDelivery, hexecution, Option.all_some, hstage, hraises, ne_eq,
        not_true_eq_false, decide_false, Bool.false_or, Bool.or_eq_true, Bool.not_eq_true',
        decide_eq_true_eq] at spares
      have hpasses := spares.resolve_right (Nat.not_le.mpr hretries)
      have hreport : execution.report answer = none := by
        rw [EmailExecution.report, hstage]
      have hmoved : Outbox.moved task execution answer messageId =
          { execution with stage := .retrying } := by
        simp [Outbox.moved, EmailTask.next, EmailTask.caught, hstage, hraises, hpasses]
      obtain ⟨hlt, _⟩ := List.getElem?_eq_some_iff.mp hexecution
      unfold Outbox.step
      dsimp only
      rw [hexecution]
      dsimp only
      rw [hreport, ← hmoved]
      exact List.getElem?_set_self hlt

/-! ## Runs -/

/-- In every run of admitted steps, the message is not submitted again once it has been
accepted, and a failed submission is followed by a retry while retries remain. -/
theorem delivers_once_throughout (task : EmailTask) (events : List OutboxEvent)
    (spares : Every (Outbox.step task)
      (fun outbox event => sparesDelivery task outbox event = true) {} events) :
    Every (Outbox.step task) (DeliversOnce task) {} events := by
  refine every_of_invariant Outbox.Once ?_ ?_ ?_ events spares
  · intro outbox event once hspares
    exact deliversOnce_of_once once hspares
  · intro outbox event once hspares
    exact once_step once hspares
  · exact .before rfl (fun _ hexecution => by cases hexecution) (Nat.le_refl 1)

/-- The mail server refuses the first submission and accepts the second. -/
def deliveredOnRetry : List OutboxEvent :=
  [ .start 0, .advance 0 .succeeds 0, .advance 0 .succeeds 7, .advance 0 .raises 0,
    .advance 0 .succeeds 0, .advance 0 .succeeds 0,
    .start 0, .advance 0 .succeeds 0, .advance 0 .succeeds 8, .advance 0 .succeeds 0,
    .advance 0 .succeeds 0, .advance 0 .succeeds 0 ]

theorem delivers_once_on_deliveredOnRetry :
    Every (Outbox.step .generic) (DeliversOnce .generic) {} deliveredOnRetry ∧
    run (Outbox.step .generic) {} deliveredOnRetry =
      { queue := [], accepted := [8], records := [8], reports := [.retry, .done] } := by
  refine ⟨delivers_once_throughout .generic deliveredOnRetry ?_, ?_⟩
  · decide
  · decide

/-- The worker stops after the mail server has accepted the message. -/
def stoppedAfterSubmission : List OutboxEvent :=
  [ .start 0, .advance 0 .succeeds 0, .advance 0 .succeeds 7, .advance 0 .succeeds 0, .stop 0,
    .start 0, .advance 0 .succeeds 0, .advance 0 .succeeds 8, .advance 0 .succeeds 0 ]

/-- The mail server refuses a reply. -/
def refusedReply : List OutboxEvent :=
  [ .start 0, .advance 0 .succeeds 0, .advance 0 .succeeds 0, .advance 0 .succeeds 7,
    .advance 0 .raises 0 ]

/-- A stopped worker has the message sent again, and a refused reply is reported as done. -/
theorem not_delivers_once :
    ¬ Every (Outbox.step .generic) (DeliversOnce .generic) {} stoppedAfterSubmission ∧
    ¬ Every (Outbox.step .reply) (DeliversOnce .reply) {} refusedReply ∧
    (run (Outbox.step .reply) {} (refusedReply ++ [.advance 0 .succeeds 0])).reports = [.done] := by
  refine ⟨?_, ?_, ?_⟩ <;> decide

end Kanzan.Tickets

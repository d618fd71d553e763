import Kanzan.Tickets.ConcurrentLaws
import Kanzan.Tickets.Escalations

/-!
# Escalations of one ticket at once

Any number of calls of `escalate_ticket` take turns on one ticket, each on an instance that it
has loaded at some earlier time.  The counter, the number in the comment and in the timeline and
both deadlines come from this instance; the other calls may have saved others by then.
-/

namespace Kanzan.Tickets.ConcurrentEscalations

open Sla Support

/-! ## What a call adds -/

/-- The internal comment with the reason for an escalation. -/
structure Comment where
  author : Option ℕ
  body : String
  isInternal : Bool
  deriving DecidableEq

/-- The entry of an escalation in the timeline, with its metadata. -/
structure Entry where
  actor : Option ℕ
  event : ActivityEvent
  reason : String
  escalationNumber : ℕ
  oldAssignee : Option ℕ
  newAssignee : Option ℕ
  oldQueue : Option Queue
  newQueue : Option Queue
  deriving DecidableEq

/-- The ticket, with the comments and the entries that its escalations add. -/
structure Store where
  tickets : TicketStore
  comments : List Comment := []
  activities : List Entry := []

/-- A statement of a call. -/
inductive Act where
  | ticket (statement : Statement)
  | comment (row : Comment)
  | activity (row : Entry)

def Act.execute : Act → Store → Store
  | .ticket statement, store => { store with tickets := statement.execute store.tickets }
  | .comment row, store => { store with comments := store.comments ++ [row] }
  | .activity row, store => { store with activities := store.activities ++ [row] }

def Store.row (store : Store) : Ticket := store.tickets.row.ticket

/-- A call of `escalate_ticket`, under the configuration that it finds. -/
structure Call extends Caller where
  site : Site
  reason : String
  assignee : Option ℕ := none
  queue : Option Queue := none

namespace Call

variable (call : Call)

def now : Instant := call.req.clock.service

def comment (number : ℕ) : Comment where
  author := call.req.actor
  body := "**Escalation (#" ++ toString number ++ "):** " ++ call.reason
  isInternal := true

def entry (loaded : Ticket) (number : ℕ) : Entry where
  actor := call.req.actor
  event := .escalatedManual
  reason := call.reason
  escalationNumber := number
  oldAssignee := loaded.assignee
  newAssignee := call.assignee
  oldQueue := loaded.queue
  newQueue := call.queue

def updateFields : List Column :=
  [.escalationCount, .escalatedAt, .updatedAt] ++
    (if call.assignee.isSome then [.assignee, .assignedBy, .assignedAt] else []) ++
    (if call.queue.isSome then [Column.queue] else [])

def saveCounter (loaded : TicketRow) : Routine TicketRow :=
  saveKeys call.site call.toCaller (call.updateFields.map .column)
    (loaded.modify (escalatedTicket call.toCaller call.assignee call.queue))

/-- `escalate_ticket` on an instance, with what it adds to other tables. -/
def serve (loaded : TicketRow) : Program Store Act PUnit :=
  if call.assignee.any (fun assignee => !call.site.ws.isActiveMember assignee) then
    .fail "Assignee is not an active member of this tenant."
  else do
    let saved ← (call.saveCounter loaded).embed Store.tickets .ticket
    Program.perform (.comment (call.comment saved.ticket.escalationCount))
    let extended ← (extendDeadlines call.site call.toCaller saved).embed Store.tickets .ticket
    Program.perform (.activity (call.entry loaded.ticket extended.ticket.escalationCount))

end Call

/-! ## Calls that take turns -/

/-- The ticket, and what has become of every call. -/
abbrev State := World Store (Option (Serving Store Act TicketRow))

section Turns

variable (calls : ℕ → Call)

/-- A call loads the ticket at its first turn and takes one step at any other. -/
def act (request : ℕ) (store : Store) :
    Option (Serving Store Act TicketRow) → Unit → Store × Option (Serving Store Act TicketRow)
  | none, _ => (store, some ⟨store.tickets.row, (calls request).serve store.tickets.row⟩)
  | some serving, _ =>
    let after := serving.program.step Act.execute store
    (after.1, some { serving with program := after.2 })

def turn (state : State) (request : ℕ) : State := state.turn (act calls) (request, ())

/-- Any call may have loaded some row already, but none has gone further. -/
def Fresh (state : State) : Prop :=
  ∀ request serving, state.locals request = some serving →
    serving.program = (calls request).serve serving.loaded

def Returned (state : State) (request : ℕ) (loaded : TicketRow) : Prop :=
  state.locals request = some ⟨loaded, .done ⟨⟩⟩

/-- Every call has returned or raised, or has not begun. -/
def AtRest (state : State) : Prop :=
  ∀ request serving, state.locals request = some serving →
    serving.program = (calls request).serve serving.loaded ∨ serving.program = .done ⟨⟩ ∨
      ∃ message, serving.program = .fail message

/-- The calls that have returned, in the order of the numbers that they carry. -/
structure Numbered (before : Store) (state : State) (order : List (ℕ × TicketRow)) : Prop where
  nodup : (order.map Prod.fst).Nodup
  returned : ∀ request loaded, (request, loaded) ∈ order ↔ Returned state request loaded
  count : state.shared.row.escalationCount = before.row.escalationCount + order.length
  comments : state.shared.comments.Perm (before.comments ++
    (order.zipIdx (before.row.escalationCount + 1)).map fun slip =>
      (calls slip.1.1).comment slip.2)
  activities : state.shared.activities.Perm (before.activities ++
    (order.zipIdx (before.row.escalationCount + 1)).map fun slip =>
      (calls slip.1.1).entry slip.1.2.ticket slip.2)

def NotEarlier (before after : Store) : Prop :=
  ∀ (target : Target) due, target.due before.row = some due →
    ∃ new, target.due after.row = some new ∧ due ≤ new

/-- Nothing of what the calls of a run do to the ticket is lost. -/
structure Lossless (state : State) (schedule : List ℕ) : Prop where
  numbered : AtRest calls (run (turn calls) state schedule) →
    ∃ order, Numbered calls state.shared (run (turn calls) state schedule) order
  deadlines : ∀ first rest, schedule = first ++ rest →
    NotEarlier (run (turn calls) state first).shared (run (turn calls) state schedule).shared

end Turns

/-! ## What a turn finds -/

/-- The instant that `_extend_deadline` adds to. -/
def origin (target : Target) (now : Instant) (ticket : Ticket) : Instant :=
  match target.due ticket with
  | none => now
  | some due => max now due

def added (target : Target) (now : Instant) (policy : SLAPolicy) (ticket : Ticket) : Minutes :=
  match target.due ticket with
  | none => target.minutes policy
  | some due =>
    if due ≤ now then minExtensionMinutes else extension now due (target.minutes policy)

def column : Target → Column
  | .firstResponse => .slaFirstResponseDue
  | .resolution => .slaResolutionDue

/--
The deadline stored is no later than what the call goes on from, the deadline that it has loaded
or the present, and no addition to that ends before it.
-/
structure Call.Clears (call : Call) (target : Target) (loaded row : Ticket) : Prop where
  stored : ∀ due, target.due row = some due → due ≤ origin target call.now loaded
  forward : ∀ policy, call.site.ws.policyFor loaded.priority = some policy →
    Forward call.site.ws.toTenant (origin target call.now loaded)
      (added target call.now policy loaded)

/--
A call finds the row as it has loaded it: where a save reads the status, one that pauses the
clock if and only if the loaded one does; where the count is saved, the same count; and where the
deadlines are saved, none that these would put back.
-/
def Call.Finds (call : Call) (loaded row : Ticket) : Program Store Act PUnit → Prop
  | .read _ => row.status.pausesSla = loaded.status.pausesSla
  | .write (.ticket (.update keys _)) _ =>
    (.column .escalationCount ∈ keys → row.escalationCount = loaded.escalationCount) ∧
      ∀ target, .column (column target) ∈ keys → call.Clears target loaded row
  | _ => True

/-- The turn of a call whose instance is still good. -/
def Current (calls : ℕ → Call) (state : State) (request : ℕ) : Prop :=
  ∀ serving, state.locals request = some serving →
    (calls request).Finds serving.loaded.ticket state.shared.row serving.program

variable {inst saved row : TicketRow} {keys : List Key} {target : Target} {least : ℕ}

/-! ## The steps of a call -/

section Saves

variable {site : Site}

def Agrees (inst saved : TicketRow) : Prop :=
  ∀ key : Key, key ≠ .company →
    (∀ c ∈ ([.updatedAt, .resolvedAt, .closedAt, .slaResolutionBreached] : List Column),
      key ≠ .column c) → key.Same saved inst

theorem agrees_preSave (site : Site) (now autoNow : Instant) (previous : Ticket)
    (columns : List Column) (inst : TicketRow) :
    Agrees inst ((inst.fillCompany site).modify fun ticket =>
      (handleTicketStatusChange now previous ticket).autoNow columns autoNow) := by
  intro key hcompany hkey
  have hstamped : key.Same _ _ := (autoNow_confined columns autoNow).same
    ((inst.fillCompany site).modify (handleTicketStatusChange now previous)) fun c hc =>
      hkey c (List.mem_cons.mpr (.inl (List.mem_singleton.mp hc)))
  have hreceived : key.Same _ _ := (handleTicketStatusChange_confined now previous).same
    (inst.fillCompany site) fun c hc => hkey c (List.mem_cons_of_mem _ hc)
  exact (hstamped.trans hreceived).trans (fillCompany_same site inst hcompany)

theorem pauseOnStatusChange_eq_done {save : List Key → TicketRow → Routine TicketRow}
    {previous : TicketStatus} {now : Instant}
    (hpauses : previous.pausesSla = inst.ticket.status.pausesSla) :
    pauseOnStatusChange site save previous now inst = .done inst := by
  unfold pauseOnStatusChange
  split
  · rfl
  · rw [hpauses]
    cases inst.ticket.status.pausesSla with
    | false => rfl
    | true => rfl

/-- A save reads the status and writes the columns, and nothing else where the clock is left
alone. -/
theorem saveKeys_bind (caller : Caller) (hlimit : site.recursionLimit ≠ 0) (keys : List Key)
    (inst : TicketRow) (rest : TicketRow → Program Store Act PUnit) :
    ∃ next, ((saveKeys site caller keys inst).embed Store.tickets Act.ticket).bind rest =
        .read next ∧
      ∀ store : Store, store.row.status.pausesSla = inst.ticket.status.pausesSla →
        ∃ saved, Agrees inst saved ∧
          next store = .write (.ticket (.update keys saved)) (rest saved) := by
  obtain ⟨limit, hlimit⟩ := Nat.exists_eq_succ_of_ne_zero hlimit
  unfold saveKeys
  rw [hlimit]
  refine ⟨_, rfl, fun store hpauses => ?_⟩
  have agrees := agrees_preSave site caller.req.clock.preSave
    caller.req.clock.autoNow store.tickets.row.ticket (columnsOf keys) inst
  have hstatus := congrArg TicketStatus.pausesSla (agrees (.column .status) (by decide) (by decide))
  refine ⟨_, agrees, ?_⟩
  simp only [Program.bind_eq, Program.done_bind, Program.perform_bind, Program.embed]
  rw [pauseOnStatusChange_eq_done (show store.tickets.row.ticket.status.pausesSla = _ from
    hpauses.trans hstatus.symm)]
  rfl

end Saves

section Courses

variable (call : Call) (loaded : TicketRow)

def Call.afterExtension (extended : TicketRow) : Program Store Act PUnit :=
  .write (.activity (call.entry loaded.ticket extended.ticket.escalationCount)) (.done ⟨⟩)

def Call.afterComment (saved : TicketRow) : Program Store Act PUnit :=
  ((extendDeadlines call.site call.toCaller saved).embed Store.tickets .ticket).bind
    (call.afterExtension loaded)

def Call.afterCounter (saved : TicketRow) : Program Store Act PUnit :=
  .write (.comment (call.comment saved.ticket.escalationCount)) (call.afterComment loaded saved)

theorem Call.serve_eq (hmember : ¬call.assignee.any (fun assignee =>
      !call.site.ws.isActiveMember assignee)) :
    call.serve loaded = ((call.saveCounter loaded).embed Store.tickets .ticket).bind
      (call.afterCounter loaded) := if_neg hmember

/-- The instance of a call after the first save. -/
structure Counted (saved : TicketRow) : Prop where
  limit : call.site.recursionLimit ≠ 0
  status : saved.ticket.status = loaded.ticket.status
  priority : saved.ticket.priority = loaded.ticket.priority
  count : saved.ticket.escalationCount = loaded.ticket.escalationCount + 1
  due : ∀ target : Target, target.due saved.ticket = target.due loaded.ticket

/-- The instance of a call that saves the deadlines, with the columns saved. -/
structure Deferred (keys : List Key) (extended : TicketRow) : Prop where
  count : extended.ticket.escalationCount = loaded.ticket.escalationCount + 1
  uncounted : .column .escalationCount ∉ keys
  columns : ∀ target, .column (column target) ∈ keys
  due : ∃ policy, call.site.ws.policyFor loaded.ticket.priority = some policy ∧
    ∀ target : Target, target.due extended.ticket = some (addBusinessMinutes
      (origin target call.now loaded.ticket) (added target call.now policy loaded.ticket)
        call.site.ws.toTenant)

/--
How far a call has got: how many it has made of the count, the comment and the entry, and the
program that is left.
-/
inductive Course : ℕ → Program Store Act PUnit → Prop
  | raised (message : String) : Course 0 (.fail message)
  | opening : Course 0 (call.serve loaded)
  | counting {saved : TicketRow} (counted : Counted call loaded saved) :
      Course 0 (.write (.ticket (.update (call.updateFields.map .column) saved))
        (call.afterCounter loaded saved))
  | commenting {saved : TicketRow} (counted : Counted call loaded saved) :
      Course 1 (call.afterCounter loaded saved)
  | extending {saved : TicketRow} (counted : Counted call loaded saved) :
      Course 2 (call.afterComment loaded saved)
  | deferring {keys : List Key} {extended : TicketRow}
      (deferred : Deferred call loaded keys extended) :
      Course 2 (.write (.ticket (.update keys extended)) (call.afterExtension loaded extended))
  | logging {extended : TicketRow}
      (count : extended.ticket.escalationCount = loaded.ticket.escalationCount + 1) :
      Course 2 (call.afterExtension loaded extended)
  | returned : Course 3 (.done ⟨⟩)

/-- What a step of a call does to the store. -/
inductive Effect : ℕ → ℕ → Store → Store → Prop
  | quiet {made : ℕ} {store : Store} : Effect made made store store
  | counts {store : Store} {tickets : TicketStore}
      (found : store.row.escalationCount = loaded.ticket.escalationCount)
      (count : tickets.row.ticket.escalationCount = loaded.ticket.escalationCount + 1)
      (due : ∀ target : Target, target.due tickets.row.ticket = target.due store.row) :
      Effect 0 1 store { store with tickets }
  | comments {store : Store} : Effect 1 2 store
      { store with comments :=
          store.comments ++ [call.comment (loaded.ticket.escalationCount + 1)] }
  | defers {store : Store} {tickets : TicketStore}
      (count : tickets.row.ticket.escalationCount = store.row.escalationCount)
      (later : NotEarlier store { store with tickets }) :
      Effect 2 2 store { store with tickets }
  | logs {store : Store} : Effect 2 3 store
      { store with activities :=
          store.activities ++ [call.entry loaded.ticket (loaded.ticket.escalationCount + 1)] }

end Courses

section Laws

variable {call : Call} {loaded : TicketRow} {store : Store}
variable {made : ℕ}

/-- `_extend_deadline` adds some minutes to some instant. -/
theorem extendDeadline_eq (ws : Workspace) (target : Target) (now : Instant) (policy : SLAPolicy)
    (ticket : Ticket) :
    extendDeadline ws now (target.due ticket) (target.minutes policy) =
      addBusinessMinutes (origin target now ticket) (added target now policy ticket)
        ws.toTenant := by
  unfold origin added
  cases hdue : target.due ticket with
  | none => rfl
  | some due =>
    dsimp only
    by_cases hpassed : due ≤ now
    · rw [extendDeadline_passed hpassed, if_pos hpassed, max_eq_left hpassed]
    · rw [extendDeadline_ahead (not_le.mp hpassed), if_neg hpassed,
        max_eq_right (not_le.mp hpassed).le]

theorem added_nonneg (target : Target) (now : Instant) (policy : SLAPolicy) (ticket : Ticket) :
    0 ≤ added target now policy ticket := by
  unfold added
  cases target.due ticket with
  | none => exact Nat.cast_nonneg _
  | some due =>
    dsimp only
    split
    · exact minExtensionMinutes_eq ▸ Nat.cast_nonneg 15
    · exact le_max_of_le_left (minExtensionMinutes_eq ▸ Nat.cast_nonneg 15)

theorem escalatedTicket_keeps (caller : Caller) (assignee : Option ℕ) (queue : Option Queue)
    (ticket : Ticket) :
    (escalatedTicket caller assignee queue ticket).status = ticket.status ∧
      (escalatedTicket caller assignee queue ticket).priority = ticket.priority ∧
      (escalatedTicket caller assignee queue ticket).escalationCount =
        ticket.escalationCount + 1 ∧
      ∀ target : Target,
        target.due (escalatedTicket caller assignee queue ticket) = target.due ticket := by
  unfold escalatedTicket
  cases assignee with
  | none => exact ⟨rfl, rfl, rfl, fun target => by cases target <;> rfl⟩
  | some user => exact ⟨rfl, rfl, rfl, fun target => by cases target <;> rfl⟩

theorem Agrees.due (agrees : Agrees inst saved) (target : Target) :
    target.due saved.ticket = target.due inst.ticket := by
  cases target with
  | firstResponse => exact agrees (.column .slaFirstResponseDue) (by decide) (by decide)
  | resolution => exact agrees (.column .slaResolutionDue) (by decide) (by decide)

theorem Agrees.count (agrees : Agrees inst saved) :
    saved.ticket.escalationCount = inst.ticket.escalationCount :=
  agrees (.column .escalationCount) (by decide) (by decide)

theorem counted_of_agrees (hlimit : call.site.recursionLimit ≠ 0)
    (agrees : Agrees (loaded.modify (escalatedTicket call.toCaller call.assignee call.queue))
      saved) : Counted call loaded saved := by
  obtain ⟨hstatus, hpriority, hcount, hdue⟩ :=
    escalatedTicket_keeps call.toCaller call.assignee call.queue loaded.ticket
  have hsaved : saved.ticket.status = _ := agrees (.column .status) (by decide) (by decide)
  have hprior : saved.ticket.priority = _ := agrees (.column .priority) (by decide) (by decide)
  exact
    { limit := hlimit
      status := hsaved.trans hstatus
      priority := hprior.trans hpriority
      count := agrees.count.trans hcount
      due := fun target => (agrees.due target).trans (hdue target) }

theorem extendDeadlines_of_policy {site : Site} (caller : Caller) {policy : SLAPolicy}
    (hpolicy : site.ws.policyFor saved.ticket.priority = some policy) :
    ∃ (columns : List Column) (inst : TicketRow),
      extendDeadlines site caller saved = saveKeys site caller (columns.map .column) inst ∧
      .escalationCount ∉ columns ∧ (∀ target, column target ∈ columns) ∧
      inst.ticket.status = saved.ticket.status ∧
      inst.ticket.escalationCount = saved.ticket.escalationCount ∧
      ∀ target : Target, target.due inst.ticket = some (extendDeadline site.ws
        caller.req.clock.service (target.due saved.ticket) (target.minutes policy)) := by
  unfold extendDeadlines
  rw [hpolicy]
  refine ⟨_, _, rfl, ?_, fun target => ?_, rfl, rfl, fun target => ?_⟩
  · split <;> decide
  · cases target with
    | firstResponse => simp [column]
    | resolution => simp [column]
  · cases target with
    | firstResponse => rfl
    | resolution => rfl

/-- The second save has both deadlines extended from those that the call has loaded. -/
theorem afterComment_cases (counted : Counted call loaded saved) :
    call.afterComment loaded saved = call.afterExtension loaded saved ∨
      ∃ next, call.afterComment loaded saved = .read next ∧
        ∀ store : Store, store.row.status.pausesSla = loaded.ticket.status.pausesSla →
          ∃ keys extended, Deferred call loaded keys extended ∧
            next store = .write (.ticket (.update keys extended))
              (call.afterExtension loaded extended) := by
  unfold Call.afterComment
  cases hpolicy : call.site.ws.policyFor saved.ticket.priority with
  | none =>
    left
    rw [extendDeadlines, hpolicy]
    rfl
  | some policy =>
    right
    obtain ⟨columns, inst, hextend, huncounted, hcolumns, hstatus, hcount, hdue⟩ :=
      extendDeadlines_of_policy call.toCaller hpolicy
    obtain ⟨next, hnext, hread⟩ := saveKeys_bind call.toCaller counted.limit
      (columns.map .column) inst (call.afterExtension loaded)
    refine ⟨next, by rw [hextend, hnext], fun store hpauses => ?_⟩
    obtain ⟨extended, agrees, hwrite⟩ := hread store
      (hpauses.trans (congrArg TicketStatus.pausesSla (hstatus.trans counted.status).symm))
    have hmem : ∀ c, Key.column c ∈ columns.map Key.column ↔ c ∈ columns := fun c =>
      List.mem_map_of_injective fun _ _ h => Key.column.inj h
    refine ⟨_, extended, ?_, hwrite⟩
    exact
      { count := agrees.count.trans (hcount.trans counted.count)
        uncounted := fun h => huncounted ((hmem _).mp h)
        columns := fun target => (hmem _).mpr (hcolumns target)
        due := by
          rw [counted.priority] at hpolicy
          refine ⟨policy, hpolicy, fun target => ?_⟩
          rw [agrees.due target, hdue target, counted.due target, extendDeadline_eq]
          rfl }

theorem due_persist_of_mem (hmem : .column (column target) ∈ keys) :
    target.due (inst.persist keys row).ticket = target.due inst.ticket := by
  cases target with
  | firstResponse => exact TicketRow.persist_of_mem inst row hmem
  | resolution => exact TicketRow.persist_of_mem inst row hmem

theorem due_persist_of_notMem (hmem : .column (column target) ∉ keys) :
    target.due (inst.persist keys row).ticket = target.due row.ticket := by
  cases target with
  | firstResponse => exact TicketRow.persist_of_notMem inst row hmem
  | resolution => exact TicketRow.persist_of_notMem inst row hmem

theorem count_persist_of_mem (hmem : .column .escalationCount ∈ keys) :
    (inst.persist keys row).ticket.escalationCount = inst.ticket.escalationCount :=
  TicketRow.persist_of_mem inst row hmem

theorem mem_updateFields (call : Call) :
    .column .escalationCount ∈ call.updateFields.map Key.column ∧
      ∀ target, .column (column target) ∉ call.updateFields.map Key.column := by
  unfold Call.updateFields
  refine ⟨by simp, fun target => ?_⟩
  cases target with
  | firstResponse => cases call.assignee <;> cases call.queue <;> simp [column]
  | resolution => cases call.assignee <;> cases call.queue <;> simp [column]

theorem Call.serve_cases (call : Call) (loaded : TicketRow) :
    (∃ message, call.serve loaded = .fail message) ∨
      ∃ next, call.serve loaded = .read next ∧
        ∀ store : Store, store.row.status.pausesSla = loaded.ticket.status.pausesSla →
          ∃ saved, Counted call loaded saved ∧
            next store = .write (.ticket (.update (call.updateFields.map .column) saved))
              (call.afterCounter loaded saved) := by
  by_cases hmember : call.assignee.any (fun assignee => !call.site.ws.isActiveMember assignee)
  · exact .inl ⟨_, if_pos hmember⟩
  rw [call.serve_eq loaded hmember]
  by_cases hlimit : call.site.recursionLimit = 0
  · left
    refine ⟨"maximum recursion depth exceeded", ?_⟩
    rw [saveCounter, saveKeys, hlimit]
    rfl
  · right
    obtain ⟨next, hnext, hread⟩ := saveKeys_bind call.toCaller hlimit
      (call.updateFields.map .column)
      (loaded.modify (escalatedTicket call.toCaller call.assignee call.queue))
      (call.afterCounter loaded)
    refine ⟨next, hnext, fun store hpauses => ?_⟩
    have hstatus := (escalatedTicket_keeps call.toCaller call.assignee call.queue
      loaded.ticket).1
    obtain ⟨saved, agrees, hwrite⟩ :=
      hread store (hpauses.trans (congrArg TicketStatus.pausesSla hstatus.symm))
    exact ⟨saved, counted_of_agrees hlimit agrees, hwrite⟩

theorem Course.made_of_serve {program : Program Store Act PUnit}
    (course : Course call loaded made program) (hserve : program = call.serve loaded) :
    made = 0 := by
  have hunlike : ∀ act next, call.serve loaded ≠ .write act next := by
    intro act next hwrite
    rcases call.serve_cases loaded with ⟨message, hraises⟩ | ⟨_, hread, -⟩
    · cases hraises.symm.trans hwrite
    · cases hread.symm.trans hwrite
  cases course with
  | raised message => rfl
  | opening => rfl
  | counting counted => rfl
  | commenting counted => exact absurd hserve.symm (hunlike _ _)
  | extending counted =>
    rcases afterComment_cases counted with hnone | ⟨next, hnext, hlater⟩
    · exact absurd (hserve.symm.trans hnone) (hunlike _ _)
    rcases call.serve_cases loaded with ⟨message, hraises⟩ | ⟨other, hother, hread⟩
    · cases hraises.symm.trans (hserve.symm.trans hnext)
    -- a comment comes after the first save, and an entry after the second
    obtain rfl : other = next :=
      Program.read.inj (hother.symm.trans (hserve.symm.trans hnext))
    obtain ⟨saved, -, hfirst⟩ := hread ⟨⟨0, loaded, []⟩, [], []⟩ rfl
    obtain ⟨keys, extended, -, hsecond⟩ := hlater ⟨⟨0, loaded, []⟩, [], []⟩ rfl
    cases hfirst.symm.trans hsecond
  | deferring deferred => exact absurd hserve.symm (hunlike _ _)
  | logging count => exact absurd hserve.symm (hunlike _ _)
  | returned =>
    rcases call.serve_cases loaded with ⟨message, hraises⟩ | ⟨next, hread, -⟩
    · cases hraises.symm.trans hserve.symm
    · cases hread.symm.trans hserve.symm

theorem Course.made_of_done (course : Course call loaded made (.done ⟨⟩)) : made = 3 := by
  generalize hprogram : (.done ⟨⟩ : Program Store Act PUnit) = program at course
  cases course with
  | opening =>
    rcases call.serve_cases loaded with ⟨message, hraises⟩ | ⟨next, hread, -⟩
    · cases hprogram.trans hraises
    · cases hprogram.trans hread
  | extending counted =>
    rcases afterComment_cases counted with hnone | ⟨next, hnext, -⟩
    · cases hprogram.trans hnone
    · cases hprogram.trans hnext
  | returned => rfl
  | _ => cases hprogram

theorem Course.made_of_fail {message : String} (course : Course call loaded made (.fail message)) :
    made = 0 := by
  generalize hprogram : (.fail message : Program Store Act PUnit) = program at course
  cases course with
  | extending counted =>
    rcases afterComment_cases counted with hnone | ⟨next, hnext, -⟩
    · cases hprogram.trans hnone
    · cases hprogram.trans hnext
  | raised _ => rfl
  | opening => rfl
  | counting _ => rfl
  | _ => cases hprogram

theorem Course.step {made : ℕ} {program : Program Store Act PUnit}
    (course : Course call loaded made program)
    (finds : call.Finds loaded.ticket store.row program) :
    ∃ made', Course call loaded made' (program.step Act.execute store).2 ∧
      Effect call loaded made made' store (program.step Act.execute store).1 := by
  cases course with
  | raised message => exact ⟨0, .raised message, .quiet⟩
  | opening =>
    rcases call.serve_cases loaded with ⟨message, hraises⟩ | ⟨next, hnext, hread⟩
    · rw [hraises]
      exact ⟨0, .raised message, .quiet⟩
    · rw [hnext] at finds ⊢
      obtain ⟨saved, counted, hwrite⟩ := hread store finds
      refine ⟨0, ?_, .quiet⟩
      dsimp only [Program.step]
      rw [hwrite]
      exact .counting counted
  | counting counted =>
    obtain ⟨hcounts, hdues⟩ := mem_updateFields call
    refine ⟨1, .commenting counted, .counts (finds.1 hcounts) ?_ fun target => ?_⟩
    · exact (count_persist_of_mem hcounts).trans counted.count
    · exact due_persist_of_notMem (hdues target)
  | commenting counted =>
    refine ⟨2, .extending counted, ?_⟩
    have hcomments : Effect call loaded 1 2 store _ := .comments
    rw [← counted.count] at hcomments
    exact hcomments
  | extending counted =>
    rcases afterComment_cases counted with hnone | ⟨next, hnext, hread⟩
    · rw [hnone]
      refine ⟨3, .returned, ?_⟩
      have hlogs : Effect call loaded 2 3 store _ := .logs
      rw [← counted.count] at hlogs
      exact hlogs
    · rw [hnext] at finds ⊢
      obtain ⟨keys, extended, deferred, hwrite⟩ := hread store finds
      refine ⟨2, ?_, .quiet⟩
      dsimp only [Program.step]
      rw [hwrite]
      exact .deferring deferred
  | deferring deferred =>
    obtain ⟨policy, hpolicy, hdue⟩ := deferred.due
    refine ⟨2, .logging deferred.count, .defers ?_ fun target due hstored => ?_⟩
    · exact TicketRow.persist_of_notMem _ _ deferred.uncounted
    · have clears := finds.2 target (deferred.columns target)
      refine ⟨_, (due_persist_of_mem (deferred.columns target)).trans (hdue target), ?_⟩
      exact (clears.stored due hstored).trans
        (le_addBusinessMinutes (added_nonneg _ _ _ _) (clears.forward policy hpolicy))
  | logging count =>
    refine ⟨3, .returned, ?_⟩
    have hlogs : Effect call loaded 2 3 store _ := .logs
    rw [← count] at hlogs
    exact hlogs
  | returned => exact ⟨3, .returned, .quiet⟩

end Laws


/-! ## Runs -/

section Runs

variable (calls : ℕ → Call) (before : Store)

/-- The calls in the order in which they have saved the count, each with its number. -/
def slips (order : List (ℕ × TicketRow)) : List ((ℕ × TicketRow) × ℕ) :=
  order.zipIdx (before.row.escalationCount + 1)

/--
How far every call has got, and the order in which they have saved the count.  Each carries the
number of its place, which is the next after the one that it has loaded.
-/
structure Standing (state : State) (made : ℕ → ℕ) (order : List (ℕ × TicketRow)) : Prop where
  idle : ∀ request, state.locals request = none → made request = 0
  course : ∀ request serving, state.locals request = some serving →
    Course (calls request) serving.loaded (made request) serving.program
  nodup : (order.map Prod.fst).Nodup
  ordered : ∀ request serving, state.locals request = some serving → 1 ≤ made request →
    (request, serving.loaded) ∈ order
  held : ∀ request loaded, (request, loaded) ∈ order →
    1 ≤ made request ∧ ∃ program, state.locals request = some ⟨loaded, program⟩
  number : ∀ slip ∈ slips before order, slip.2 = slip.1.2.ticket.escalationCount + 1

/-- The count goes with the calls that have saved it, and so do the comments and the entries with
those that have got so far. -/
structure Tally (state : State) (made : ℕ → ℕ) (order : List (ℕ × TicketRow))
    (posted logged : List ((ℕ × TicketRow) × ℕ)) : Prop
    extends Standing calls before state made order where
  count : state.shared.row.escalationCount = before.row.escalationCount + order.length
  filedComments : Filed (slips before order) (fun slip => 2 ≤ made slip.1.1) posted
  comments : state.shared.comments =
    before.comments ++ posted.map fun slip => (calls slip.1.1).comment slip.2
  filedEntries : Filed (slips before order) (fun slip => 3 ≤ made slip.1.1) logged
  activities : state.shared.activities =
    before.activities ++ logged.map fun slip => (calls slip.1.1).entry slip.1.2.ticket slip.2

section Laws

variable {calls} {before} {state : State} {made : ℕ → ℕ} {order : List (ℕ × TicketRow)}
variable {posted logged : List ((ℕ × TicketRow) × ℕ)} {request : ℕ}
variable {serving : Serving Store Act TicketRow}

theorem slips_concat (before : Store) (order : List (ℕ × TicketRow)) (entry : ℕ × TicketRow) :
    slips before (order ++ [entry]) =
      slips before order ++ [(entry, before.row.escalationCount + order.length + 1)] := by
  rw [slips, List.zipIdx_append, List.zipIdx_singleton, add_right_comm]
  rfl

theorem turn_of_none (calls : ℕ → Call) (hnone : state.locals request = none) :
    (turn calls state request).shared = state.shared ∧
      (turn calls state request).locals request =
        some ⟨state.shared.tickets.row, (calls request).serve state.shared.tickets.row⟩ := by
  constructor
  · simp only [turn, World.turn_shared, hnone, act]
  · rw [turn, World.turn_locals_self, hnone]
    rfl

theorem turn_of_some (calls : ℕ → Call) (hserving : state.locals request = some serving) :
    (turn calls state request).shared =
        (serving.program.step Act.execute state.shared).1 ∧
      (turn calls state request).locals request =
        some ⟨serving.loaded, (serving.program.step Act.execute state.shared).2⟩ := by
  constructor
  · simp only [turn, World.turn_shared, hserving, act]
  · rw [turn, World.turn_locals_self, hserving]
    rfl

theorem turn_locals_of_ne {other : ℕ} (hother : other ≠ request) :
    (turn calls state request).locals other = state.locals other :=
  World.turn_locals_of_ne state () hother

theorem Standing.mem_slips (standing : Standing calls before state made order)
    (hserving : state.locals request = some serving) (hmade : 1 ≤ made request) :
    ((request, serving.loaded), serving.loaded.ticket.escalationCount + 1) ∈
      slips before order := by
  have hmem := standing.ordered request serving hserving hmade
  obtain ⟨index, hindex, hget⟩ := List.getElem_of_mem hmem
  have hslip : ((request, serving.loaded), before.row.escalationCount + 1 + index) ∈
      slips before order := by
    rw [slips, List.mk_mem_zipIdx_iff_le_and_getElem?_sub]
    refine ⟨Nat.le_add_right _ _, ?_⟩
    rw [Nat.add_sub_cancel_left, List.getElem?_eq_getElem hindex, hget]
  have hnumber := standing.number _ hslip
  dsimp only at hnumber
  rwa [hnumber] at hslip

theorem Standing.eq_of_mem_slips (standing : Standing calls before state made order)
    (hserving : state.locals request = some serving) {slip : (ℕ × TicketRow) × ℕ}
    (hmem : slip ∈ slips before order) (hrequest : slip.1.1 = request) :
    slip = ((request, serving.loaded), serving.loaded.ticket.escalationCount + 1) := by
  obtain ⟨⟨other, loaded⟩, number⟩ := slip
  dsimp only at hrequest
  subst hrequest
  obtain ⟨-, program, hlocal⟩ := standing.held other loaded (List.fst_mem_of_mem_zipIdx hmem)
  have hloaded : serving.loaded = loaded := by
    rw [Option.some.inj (hserving.symm.trans hlocal)]
  have hnumber := standing.number _ hmem
  dsimp only at hnumber
  rw [hnumber, hloaded]

theorem Standing.of_turn (standing : Standing calls before state made order) {made' : ℕ → ℕ}
    {order' : List (ℕ × TicketRow)}
    (others : ∀ other, other ≠ request → made' other = made other ∧
      ∀ loaded, (other, loaded) ∈ order' ↔ (other, loaded) ∈ order)
    (hlocal : (turn calls state request).locals request = some serving)
    (course : Course (calls request) serving.loaded (made' request) serving.program)
    (ordered : ∀ loaded, (request, loaded) ∈ order' ↔
      1 ≤ made' request ∧ serving.loaded = loaded)
    (nodup : (order'.map Prod.fst).Nodup)
    (number : ∀ slip ∈ slips before order', slip.2 = slip.1.2.ticket.escalationCount + 1) :
    Standing calls before (turn calls state request) made' order' := by
  refine ⟨fun other => ?_, fun other => ?_, nodup, fun other => ?_, fun other => ?_, number⟩
  all_goals
    by_cases hother : other = request
    on_goal 1 => rw [hother, hlocal]
    on_goal 2 => rw [turn_locals_of_ne hother, (others other hother).1]
  · intro h
    cases h
  · exact standing.idle other
  · intro found h
    rw [← Option.some.inj h]
    exact course
  · exact standing.course other
  · intro found h hmade
    rw [← Option.some.inj h]
    exact (ordered serving.loaded).mpr ⟨hmade, rfl⟩
  · intro found h hmade
    exact ((others other hother).2 found.loaded).mpr (standing.ordered other found h hmade)
  · intro loaded hmem
    obtain ⟨hmade, rfl⟩ := (ordered loaded).mp hmem
    exact ⟨hmade, serving.program, rfl⟩
  · intro loaded hmem
    exact standing.held other loaded (((others other hother).2 loaded).mp hmem)

theorem Standing.load (standing : Standing calls before state made order)
    (hnone : state.locals request = none) :
    Standing calls before (turn calls state request) made order := by
  have hzero := standing.idle request hnone
  refine standing.of_turn (fun _ _ => ⟨rfl, fun _ => Iff.rfl⟩) (turn_of_none calls hnone).2 ?_
    (fun loaded => ⟨fun hmem => ?_, fun h => ?_⟩) standing.nodup standing.number
  · rw [hzero]
    exact .opening
  · obtain ⟨-, program, hsome⟩ := standing.held request loaded hmem
    rw [hnone] at hsome
    cases hsome
  · rw [hzero] at h
    exact absurd h.1 (by decide)

section Served

variable (hserving : state.locals request = some serving) {made' : ℕ}
variable (course : Course (calls request) serving.loaded made'
  (serving.program.step Act.execute state.shared).2)

include hserving course

theorem Standing.advance (standing : Standing calls before state made order)
    (same : 1 ≤ made' ↔ 1 ≤ made request) :
    Standing calls before (turn calls state request)
      (Function.update made request made') order := by
  refine standing.of_turn (fun other hother => ⟨Function.update_of_ne hother _ _, fun _ => Iff.rfl⟩)
    (turn_of_some calls hserving).2 ?_ (fun loaded => ?_) standing.nodup standing.number
  · rw [Function.update_self]
    exact course
  · rw [Function.update_self, same]
    constructor
    · intro hmem
      obtain ⟨hmade, program, hlocal⟩ := standing.held request loaded hmem
      rw [hserving] at hlocal
      exact ⟨hmade, by rw [Option.some.inj hlocal]⟩
    · rintro ⟨hmade, rfl⟩
      exact standing.ordered request serving hserving hmade

theorem Standing.enter (standing : Standing calls before state made order)
    (early : made request = 0) (hmade : 1 ≤ made')
    (next : before.row.escalationCount + order.length = serving.loaded.ticket.escalationCount) :
    Standing calls before (turn calls state request)
      (Function.update made request made') (order ++ [(request, serving.loaded)]) := by
  have hnew : ∀ loaded, (request, loaded) ∉ order := by
    intro loaded hmem
    have hheld := (standing.held request loaded hmem).1
    rw [early] at hheld
    exact absurd hheld (by decide)
  refine standing.of_turn (fun other hother => ⟨Function.update_of_ne hother _ _, fun loaded => ?_⟩)
    (turn_of_some calls hserving).2 ?_ (fun loaded => ?_) ?_ fun slip hslip => ?_
  · simp [hother]
  · rw [Function.update_self]
    exact course
  · rw [Function.update_self]
    simp [hnew, hmade, eq_comm]
  · rw [List.map_append, List.map_singleton, ← List.concat_eq_append]
    refine standing.nodup.concat fun hmem => ?_
    obtain ⟨⟨other, loaded⟩, hloaded, rfl⟩ := List.mem_map.mp hmem
    exact hnew loaded hloaded
  · rw [slips_concat, List.mem_append, List.mem_singleton] at hslip
    rcases hslip with hslip | rfl
    · exact standing.number slip hslip
    · exact congrArg Nat.succ next

end Served

theorem le_update_iff {made' : ℕ} (same : least ≤ made' ↔ least ≤ made request) (other : ℕ) :
    least ≤ Function.update made request made' other ↔ least ≤ made other := by
  by_cases hother : other = request
  · rw [hother, Function.update_self, same]
  · rw [Function.update_of_ne hother]

theorem Standing.file (standing : Standing calls before state made order)
    (hserving : state.locals request = some serving) {made' : ℕ} (hleast : 1 < least)
    (hmade : made request + 1 = least) (hmade' : made' = least) {filed : List ((ℕ × TicketRow) × ℕ)}
    (h : Filed (slips before order) (fun slip => least ≤ made slip.1.1) filed) :
    Filed (slips before order)
      (fun slip => least ≤ Function.update made request made' slip.1.1)
      (filed ++ [((request, serving.loaded), serving.loaded.ticket.escalationCount + 1)]) := by
  have hmem := standing.mem_slips hserving (by omega)
  refine h.file hmem (by dsimp only; omega) fun other hother => ?_
  by_cases hrequest : other.1.1 = request
  · have hequal := standing.eq_of_mem_slips hserving hother hrequest
    rw [hrequest, Function.update_self]
    exact ⟨fun _ => .inr hequal, fun _ => hmade'.ge⟩
  · rw [Function.update_of_ne hrequest]
    refine ⟨.inl, fun h => h.resolve_right ?_⟩
    rintro rfl
    exact hrequest rfl

/-- Every turn of a call that finds the ticket as it has loaded it keeps the tally. -/
theorem Tally.turn (tally : Tally calls before state made order posted logged)
    (current : Current calls state request) :
    ∃ made' order' posted' logged',
      Tally calls before (turn calls state request) made' order' posted' logged' := by
  cases hlocal : state.locals request with
  | none =>
    obtain ⟨hshared, -⟩ := turn_of_none calls hlocal
    refine ⟨made, order, posted, logged, tally.toStanding.load hlocal, ?_, tally.filedComments,
      ?_, tally.filedEntries, ?_⟩
    · rw [hshared]
      exact tally.count
    · rw [hshared]
      exact tally.comments
    · rw [hshared]
      exact tally.activities
  | some serving =>
    obtain ⟨hshared, -⟩ := turn_of_some calls hlocal
    obtain ⟨made', course, effect⟩ :=
      (tally.course request serving hlocal).step (current serving hlocal)
    have hkeeps : ∀ {least : ℕ} {filed : List ((ℕ × TicketRow) × ℕ)},
        (least ≤ made' ↔ least ≤ made request) →
          Filed (slips before order) (fun slip => least ≤ made slip.1.1) filed →
            Filed (slips before order)
              (fun slip => least ≤ Function.update made request made' slip.1.1) filed :=
      fun same h => h.congr fun slip _ => (le_update_iff same slip.1.1).symm
    generalize hbefore : made request = start at effect
    generalize (serving.program.step Act.execute state.shared).1 = after at effect hshared
    cases effect with
    | quiet =>
      refine ⟨_, order, posted, logged,
        tally.toStanding.advance hlocal course (by rw [hbefore]), ?_, hkeeps (by rw [hbefore]) tally.filedComments, ?_,
        hkeeps (by rw [hbefore]) tally.filedEntries, ?_⟩
      · rw [hshared]
        exact tally.count
      · rw [hshared]
        exact tally.comments
      · rw [hshared]
        exact tally.activities
    | counts found count due =>
      have hnext : before.row.escalationCount + order.length =
          serving.loaded.ticket.escalationCount := tally.count.symm.trans found
      refine ⟨_, order ++ [(request, serving.loaded)], posted, logged,
        tally.toStanding.enter hlocal course hbefore le_rfl hnext, ?_, ?_, ?_, ?_, ?_⟩
      · rw [hshared, List.length_append, List.length_singleton, ← add_assoc, hnext]
        exact count
      · rw [slips_concat]
        refine (hkeeps (by omega) tally.filedComments).issue ?_
        rw [Function.update_self]
        decide
      · rw [hshared]
        exact tally.comments
      · rw [slips_concat]
        refine (hkeeps (by omega) tally.filedEntries).issue ?_
        rw [Function.update_self]
        decide
      · rw [hshared]
        exact tally.activities
    | comments =>
      refine ⟨_, order, _, logged, tally.toStanding.advance hlocal course (by omega), ?_,
        tally.toStanding.file hlocal (by decide) (by rw [hbefore]) rfl tally.filedComments, ?_,
        hkeeps (by omega) tally.filedEntries, ?_⟩
      · rw [hshared]
        exact tally.count
      · rw [hshared, List.map_append, ← List.append_assoc, ← tally.comments]
        rfl
      · rw [hshared]
        exact tally.activities
    | defers count later =>
      refine ⟨_, order, posted, logged, tally.toStanding.advance hlocal course (by omega), ?_,
        hkeeps (by omega) tally.filedComments, ?_, hkeeps (by omega) tally.filedEntries, ?_⟩
      · rw [hshared]
        exact count.trans tally.count
      · rw [hshared]
        exact tally.comments
      · rw [hshared]
        exact tally.activities
    | logs =>
      refine ⟨_, order, posted, _, tally.toStanding.advance hlocal course (by omega), ?_,
        hkeeps (by omega) tally.filedComments, ?_,
        tally.toStanding.file hlocal (by decide) (by rw [hbefore]) rfl tally.filedEntries, ?_⟩
      · rw [hshared]
        exact tally.count
      · rw [hshared]
        exact tally.comments
      · rw [hshared, List.map_append, ← List.append_assoc, ← tally.activities]
        rfl

theorem NotEarlier.refl (store : Store) : NotEarlier store store :=
  fun _ due hdue => ⟨due, hdue, le_rfl⟩

theorem NotEarlier.trans {first second third : Store} (h : NotEarlier first second)
    (h' : NotEarlier second third) : NotEarlier first third := by
  intro target due hdue
  obtain ⟨middle, hmiddle, hle⟩ := h target due hdue
  obtain ⟨last, hlast, hle'⟩ := h' target middle hmiddle
  exact ⟨last, hlast, hle.trans hle'⟩

theorem Effect.notEarlier {call : Call} {loaded : TicketRow} {made made' : ℕ} {store after : Store}
    (effect : Effect call loaded made made' store after) : NotEarlier store after := by
  cases effect with
  | quiet => exact .refl store
  | counts found count due => exact fun target time hdue => ⟨time, (due target).trans hdue, le_rfl⟩
  | comments => exact .refl store
  | defers count later => exact later
  | logs => exact .refl store

theorem Standing.notEarlier (standing : Standing calls before state made order)
    (current : Current calls state request) :
    NotEarlier state.shared (turn calls state request).shared := by
  cases hlocal : state.locals request with
  | none =>
    rw [(turn_of_none calls hlocal).1]
    exact .refl state.shared
  | some serving =>
    rw [(turn_of_some calls hlocal).1]
    obtain ⟨made', -, effect⟩ :=
      (standing.course request serving hlocal).step (current serving hlocal)
    exact effect.notEarlier

end Laws

/-- A tally is kept in the course of a run. -/
def Tallied (state : State) : Prop :=
  ∃ made order posted logged, Tally calls before state made order posted logged

variable {calls} {before} {state : State}

theorem tallied_fresh (fresh : Fresh calls state) : Tallied calls state.shared state := by
  refine ⟨fun _ => 0, [], [], [], ⟨fun _ _ => rfl, fun request serving hserving => ?_,
    List.nodup_nil, fun _ _ _ h => absurd h (by decide), fun _ _ h => absurd h List.not_mem_nil,
    fun _ h => absurd h List.not_mem_nil⟩, rfl, ⟨List.nodup_nil, fun slip => ?_⟩,
    (List.append_nil _).symm, ⟨List.nodup_nil, fun slip => ?_⟩, (List.append_nil _).symm⟩
  · rw [fresh request serving hserving]
    exact .opening
  · simp [slips]
  · simp [slips]

theorem Tallied.turn (tallied : Tallied calls before state) {request : ℕ}
    (current : Current calls state request) : Tallied calls before (turn calls state request) := by
  obtain ⟨made, order, posted, logged, tally⟩ := tallied
  exact tally.turn current

theorem Tallied.notEarlier (tallied : Tallied calls before state) (schedule : List ℕ)
    (current : Every (ConcurrentEscalations.turn calls) (Current calls) state schedule) :
    NotEarlier state.shared (run (ConcurrentEscalations.turn calls) state schedule).shared := by
  induction schedule generalizing state with
  | nil => exact .refl state.shared
  | cons request rest ih =>
    obtain ⟨made, order, posted, logged, tally⟩ := id tallied
    exact (tally.notEarlier current.1).trans (ih (tallied.turn current.1) current.2)

theorem Tally.numbered {made : ℕ → ℕ} {order : List (ℕ × TicketRow)}
    {posted logged : List ((ℕ × TicketRow) × ℕ)}
    (tally : Tally calls before state made order posted logged) (rest : AtRest calls state) :
    Numbered calls before state order := by
  have hmade : ∀ request loaded, (request, loaded) ∈ order →
      made request = 3 ∧ Returned state request loaded := by
    intro request loaded hmem
    obtain ⟨hone, program, hlocal⟩ := tally.held request loaded hmem
    have course := tally.course request _ hlocal
    rcases rest request _ hlocal with hserve | hdone | ⟨message, hfail⟩
    · rw [course.made_of_serve hserve] at hone
      exact absurd hone (by decide)
    · dsimp only at hdone course
      subst hdone
      exact ⟨course.made_of_done, hlocal⟩
    · dsimp only at hfail course
      subst hfail
      rw [course.made_of_fail] at hone
      exact absurd hone (by decide)
  have hslips : ∀ slip ∈ slips before order, made slip.1.1 = 3 := fun slip hslip =>
    (hmade slip.1.1 slip.1.2 (List.fst_mem_of_mem_zipIdx hslip)).1
  refine ⟨tally.nodup, fun request loaded => ⟨fun hmem => (hmade request loaded hmem).2, ?_⟩,
    tally.count, ?_, ?_⟩
  · intro hreturned
    have course := tally.course request _ hreturned
    exact tally.ordered request _ hreturned (course.made_of_done ▸ by decide)
  · rw [tally.comments]
    refine List.Perm.append_left _ (List.Perm.map _ (tally.filedComments.perm
      (nodup_zipIdx _ _) fun slip hslip => ?_))
    rw [hslips slip hslip]
    decide
  · rw [tally.activities]
    refine List.Perm.append_left _ (List.Perm.map _ (tally.filedEntries.perm
      (nodup_zipIdx _ _) fun slip hslip => ?_))
    rw [hslips slip hslip]

end Runs

/--
In every run whose saves find the ticket as their call has loaded it, the calls that have returned
carry consecutive numbers and have raised the count by as many, and no deadline ends earlier than
it was at any time.
-/
theorem escalations_lossless (calls : ℕ → Call) (state : State) (schedule : List ℕ)
    (fresh : Fresh calls state) (current : Every (turn calls) (Current calls) state schedule) :
    Lossless calls state schedule := by
  have tallied : ∀ first rest, schedule = first ++ rest →
      Tallied calls state.shared (run (turn calls) state first) := by
    intro first rest hschedule
    rw [hschedule] at current
    exact run_invariant (Tallied calls state.shared) (fun _ _ h => h.turn) (tallied_fresh fresh)
      first current.first
  constructor
  · intro rest
    obtain ⟨made, order, posted, logged, tally⟩ :=
      tallied schedule [] (List.append_nil schedule).symm
    exact ⟨order, tally.numbered rest⟩
  · intro first rest hschedule
    have h := tallied first rest hschedule
    subst hschedule
    rw [run_append]
    exact h.notEarlier rest current.rest


/-! ## Two escalations -/

/-- Calls without more ado, under a configuration. -/
def callsUnder (ws : Workspace) (_ : ℕ) : Call where
  req := { clock := ⟨43200000000, 43200000000, 43200000000, 43200000000⟩, actor := some 1 }
  site := { ws := ws, recursionLimit := 1 }
  reason := "No reply"

/-- The ticket before any call. -/
def dueState : State where
  shared := { tickets := { id := 0, row := { ticket := dueTicket } } }
  locals _ := none

theorem fresh_dueState (calls : ℕ → Call) : Fresh calls dueState :=
  fun _ _ h => absurd h (Option.some_ne_none _).symm

theorem run_locals_of_notMem {calls : ℕ → Call} {state : State} {request : ℕ}
    (schedule : List ℕ) (hrequest : request ∉ schedule) :
    (run (turn calls) state schedule).locals request = state.locals request := by
  induction schedule generalizing state with
  | nil => rfl
  | cons other rest ih =>
    rw [List.mem_cons, not_or] at hrequest
    exact (ih hrequest.2).trans (turn_locals_of_ne hrequest.1)

theorem clears_of_same {request : ℕ} {loaded row : Ticket}
    (hsame : target.due row = target.due loaded) :
    (callsUnder .office request).Clears target loaded row where
  stored := by
    intro due hdue
    rw [hsame] at hdue
    rw [origin, hdue]
    exact le_max_right _ _
  forward := fun _ _ => (canExtend_office _ _).forward

/-- One call after the other, the second loads what the first has stored. -/
theorem escalations_lossless_in_turn :
    Lossless (callsUnder .office) dueState [0, 0, 0, 0, 0, 0, 0, 1, 1, 1, 1, 1, 1, 1] := by
  apply escalations_lossless _ _ _ (fresh_dueState _)
  refine ⟨fun serving h => ?_, fun serving h => ?_, fun serving h => ?_, fun serving h => ?_,
    fun serving h => ?_, fun serving h => ?_, fun serving h => ?_, fun serving h => ?_,
    fun serving h => ?_, fun serving h => ?_, fun serving h => ?_, fun serving h => ?_,
    fun serving h => ?_, fun serving h => ?_, trivial⟩
  all_goals first | cases h; done | obtain rfl := Option.some.inj h
  case refine_2 | refine_5 | refine_9 | refine_12 => rfl
  case refine_4 | refine_7 | refine_11 | refine_14 => trivial
  case refine_3 | refine_10 =>
    refine ⟨fun _ => rfl, fun target hmem => ?_⟩
    exact absurd hmem ((mem_updateFields (callsUnder .office 0)).2 target)
  case refine_6 | refine_13 =>
    refine ⟨fun hmem => absurd hmem (by decide), fun target _ => clears_of_same ?_⟩
    cases target with
    | firstResponse => rfl
    | resolution => rfl

/-- Two calls load the ticket before either saves it: both are the first. -/
theorem not_escalations_lossless :
    ¬ ∀ (calls : ℕ → Call) (state : State) (schedule : List ℕ), Fresh calls state →
      Lossless calls state schedule := by
  intro hall
  have lossless := hall (callsUnder .seeded) dueState [0, 1, 0, 0, 0, 0, 1, 1, 1, 1]
    (fresh_dueState _)
  have hboth : ∀ request ∈ [0, 1, 0, 0, 0, 0, 1, 1, 1, 1], request = 0 ∨ request = 1 := by decide
  obtain ⟨order, numbered⟩ := lossless.numbered (by
    intro request serving h
    by_cases hrequest : request = 0 ∨ request = 1
    · rcases hrequest with rfl | rfl
      · obtain rfl := Option.some.inj h
        exact .inr (.inl rfl)
      · obtain rfl := Option.some.inj h
        exact .inr (.inl rfl)
    · rw [run_locals_of_notMem _ fun hmem => hrequest (hboth request hmem)] at h
      cases h)
  have hcount : 1 = 0 + order.length := numbered.count
  have hfirst := (numbered.returned 0 { ticket := dueTicket }).mpr rfl
  have hsecond := (numbered.returned 1 { ticket := dueTicket }).mpr rfl
  obtain ⟨entry, hsingle⟩ := List.length_eq_one_iff.mp (hcount.trans (zero_add _)).symm
  rw [hsingle, List.mem_singleton] at hfirst hsecond
  cases hfirst.trans hsecond.symm

end Kanzan.Tickets.ConcurrentEscalations

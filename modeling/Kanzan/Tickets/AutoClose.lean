import Kanzan.Tickets.Resolution

/-!
# Interleavings around the auto-close task

One ticket, and the reads and writes of the requests that change its status, of the
hook that enqueues the auto-close task and then stores its id, and of the executions
of such tasks.  Every read and every write is a step of its own; a status change works
on the instance its request has loaded, however old that is.
-/

namespace Kanzan.Tickets

open Sla Support

/-! ## The machine -/

/-- An execution of `auto_close_ticket` that has passed its guards. -/
structure Execution where
  taskId : ℕ
  ticket : Ticket
  loadedAt : ℕ

/--
The store, what is under way, and how often a step has left the ticket outside the
resolved status.  A hook and a task are told by that number at their resolution; a task
is known by its position.
-/
structure Machine where
  db : Db
  departures : ℕ := 0
  instances : ℕ → Option Ticket := fun _ => none
  hooks : List ℕ := []
  tasks : List ℕ := []
  unstored : List ℕ := []
  executions : ℕ → Option Execution := fun _ => none
  cleanups : ℕ := 0

inductive Action where
  /-- A request loads the ticket. -/
  | load (request : ℕ)
  /-- It changes the status of its instance, and commits. -/
  | change (request : ℕ) (newStatus : TicketStatus) (req : Request)
  /-- `_schedule_auto_close` enqueues a task. -/
  | enqueue (hook : ℕ) (brokerUp : Bool)
  /-- `_schedule_auto_close` stores the id of the task. -/
  | storeId (taskId : ℕ)
  /-- `auto_close_ticket` loads the ticket and passes its guards. -/
  | loadForClose (worker taskId : ℕ)
  /-- `auto_close_ticket` changes the status. -/
  | close (worker : ℕ) (req : Request)
  /-- `auto_close_ticket` clears the task id. -/
  | clearId

def Db.isResolved (db : Db) (id : ℕ) : Bool := (db.tickets id).any fun row => row.status.isResolved

section Machine

variable (ws : Workspace) (id : ℕ)

/-- Commit a session's store; the hooks it registered await their turn. -/
def Machine.commit (m : Machine) (db : Db) : Machine :=
  { m with
    db := { db with onCommit := [] }
    hooks := m.hooks ++ db.onCommit.map fun _ => m.departures }

def Machine.act (m : Machine) : Action → Machine
  | .load request => { m with instances := Function.update m.instances request (m.db.tickets id) }
  | .change request newStatus req =>
    match m.instances request with
    | none => m
    | some ticket =>
      let s := changeTicketStatus ws req newStatus { db := m.db, id, ticket }
      { m.commit s.db with instances := Function.update m.instances request (some s.ticket) }
  | .enqueue hook brokerUp =>
    match m.hooks[hook]? with
    | none => m
    | some resolution =>
      if brokerUp then
        { m with
          hooks := m.hooks.eraseIdx hook
          tasks := m.tasks ++ [resolution]
          unstored := m.unstored ++ [m.tasks.length] }
      else { m with hooks := m.hooks.eraseIdx hook }
  | .storeId taskId =>
    if taskId ∈ m.unstored then
      { m with
        db := m.db.setAutoCloseTaskId id (some taskId)
        unstored := m.unstored.erase taskId }
    else m
  | .loadForClose worker taskId =>
    match m.db.tickets id with
    | none => m
    | some ticket =>
      if taskId < m.tasks.length ∧ ticket.status.slug = "resolved" ∧
          ticket.autoCloseTaskId = some taskId then
        { m with
          executions := Function.update m.executions worker
            (some { taskId, ticket, loadedAt := m.departures }) }
      else m
  | .close worker req =>
    match m.executions worker with
    | none => m
    | some execution =>
      let m := { m with executions := Function.update m.executions worker none }
      match ws.closedStatus with
      | none => m
      | some closedStatus =>
        let s := changeTicketStatus ws req closedStatus
          { db := m.db, id, ticket := execution.ticket }
        { m.commit (s.log .autoClosed).db with cleanups := m.cleanups + 1 }
  | .clearId =>
    if m.cleanups = 0 then m
    else { m with db := m.db.setAutoCloseTaskId id none, cleanups := m.cleanups - 1 }

/-- One step: an action, and the ticket seen outside the resolved status or not. -/
def Machine.step (m : Machine) (action : Action) : Machine :=
  let m := m.act ws id action
  { m with departures := if m.db.isResolved id then m.departures else m.departures + 1 }

/-- The ticket has been in the resolved status ever since the resolution of a task. -/
def Machine.InForce (m : Machine) (taskId : ℕ) : Prop :=
  m.db.isResolved id = true ∧ m.tasks[taskId]? = some m.departures

instance (m : Machine) (taskId : ℕ) : Decidable (m.InForce id taskId) :=
  inferInstanceAs (Decidable (_ ∧ _))

/-- An execution changes the status only while its task is in force. -/
def ClosesInForce (m : Machine) (action : Action) : Prop :=
  match action with
  | .close worker _ =>
    ∀ execution ∈ m.executions worker,
      ((m.act ws id action).db.tickets id).map Ticket.status ≠
        (m.db.tickets id).map Ticket.status →
      m.InForce id execution.taskId
  | _ => True

instance (m : Machine) (action : Action) : Decidable (ClosesInForce ws id m action) :=
  match action with
  | .close .. => inferInstanceAs (Decidable (∀ execution ∈ m.executions _, _ → _))
  | .load .. | .change .. | .enqueue .. | .storeId .. | .loadForClose .. | .clearId => isTrue trivial

/--
The steps that cannot leave a stale task id behind or act on a stale read: the ticket is
taken out of the resolved status by a request that has read it so, a task id is stored
while its task is in force, and a task writes before the ticket has left the resolved
status that it read.
-/
def keepsInForce (m : Machine) (action : Action) : Bool :=
  match action with
  | .change request newStatus _ =>
    !m.db.isResolved id || newStatus.isResolved || (m.instances request).all fun ticket =>
      ticket.status.isResolved || ticket.status == newStatus
  | .storeId taskId => taskId ∉ m.unstored || m.InForce id taskId
  | .close worker _ => (m.executions worker).all fun execution => execution.loadedAt == m.departures
  | _ => true

end Machine

variable {ws : Workspace} {id : ℕ} {m : Machine}

/-! ## What the counter and the phases mean -/

theorem act_departures (action : Action) : (m.act ws id action).departures = m.departures := by
  cases action <;> dsimp only [Machine.act, Machine.commit] <;> repeat' split
  all_goals rfl

variable (ws id) in
theorem departures_le_step (m : Machine) (action : Action) :
    m.departures ≤ (m.step ws id action).departures := by
  unfold Machine.step
  dsimp only
  rw [act_departures]
  split <;> omega

variable (ws id) in
theorem departures_le_run (m : Machine) (actions : List Action) :
    m.departures ≤ (run (Machine.step ws id) m actions).departures := by
  induction actions generalizing m with
  | nil => exact le_rfl
  | cons action rest ih => exact (departures_le_step _ _ m action).trans (ih _)

theorem departures_eq_iff (m : Machine) (actions : List Action) :
    (run (Machine.step ws id) m actions).departures = m.departures ↔
      Every (Machine.step ws id) (fun m action => (m.step ws id action).db.isResolved id = true)
        m actions := by
  induction actions generalizing m with
  | nil => exact ⟨fun _ => trivial, fun _ => rfl⟩
  | cons action rest ih =>
    have hrest := departures_le_run ws id (m.step ws id action) rest
    have hstep : (m.step ws id action).departures = m.departures ↔
        (m.step ws id action).db.isResolved id = true := by
      unfold Machine.step
      dsimp only
      rw [act_departures]
      split <;> simp_all
    have hle := departures_le_step ws id m action
    rw [run_cons, Every, ← ih, ← hstep]
    omega

/-- What `change_ticket_status` leaves in the row, whatever the instance was read from. -/
theorem changeTicketStatus_row (req : Request) {newStatus : TicketStatus} {s : Session}
    {previous : Ticket} (hrow : s.db.tickets s.id = some previous)
    (hchanged : s.ticket.status ≠ newStatus) :
    ∃ row, (changeTicketStatus ws req newStatus s).db.tickets s.id = some row ∧
      row.status = newStatus ∧
      row.autoCloseTaskId =
        if resolvedEdge newStatus s.ticket.status then none else previous.autoCloseTaskId := by
  obtain ⟨row, hsaved, hcore⟩ := saveDraft_row ws req.clock (statusDraft req newStatus s.ticket)
    hrow (.inl status_mem_statusDraft)
  refine ⟨row, ?_, ?_, ?_⟩
  · unfold changeTicketStatus
    rw [if_neg hchanged]
    dsimp only
    split <;> exact hsaved
  · rw [eq_of_core hcore Ticket.status (fun _ => rfl)]
    simp [Ticket.persist, status_mem_statusDraft]
  · obtain ⟨resolvedAt, closedAt, breached, hinst⟩ := handleTicketStatusChange_eq
      req.clock.preSave previous (statusDraft req newStatus s.ticket).ticket
    obtain ⟨preWait, late, hdraft⟩ := statusDraft_ticket req newStatus s.ticket
    rw [eq_of_core hcore Ticket.autoCloseTaskId (fun _ => rfl), hinst, hdraft]
    simp only [Ticket.persist, mem_statusDraft .autoCloseTaskId (by decide)]
    by_cases hleaves : resolvedEdge newStatus s.ticket.status <;> simp [hleaves]

/-! ## The invariant -/

/-- A stored task id, if there is one, is of the resolved status and of a task in `P`. -/
def Holding (P : ℕ → Prop) (id : ℕ) (db : Db) : Prop :=
  ∃ row, db.tickets id = some row ∧ ∀ taskId, row.autoCloseTaskId = some taskId →
    row.status.isResolved = true ∧ P taskId

/-- A stored task id belongs to a task in force; an execution that has passed its guards
belongs to the task that was in force when it did. -/
structure Consistent (id : ℕ) (m : Machine) : Prop where
  stored : Holding (fun taskId => m.tasks[taskId]? = some m.departures) id m.db
  loaded : ∀ worker execution, m.executions worker = some execution →
    execution.ticket.status.isResolved = true ∧
      m.tasks[execution.taskId]? = some execution.loadedAt ∧ execution.loadedAt ≤ m.departures

/-- Moreover, outside the resolved status every execution has been overtaken. -/
structure Guarded (id : ℕ) (m : Machine) : Prop extends Consistent id m where
  away : m.db.isResolved id = false → ∀ worker execution, m.executions worker = some execution →
    execution.loadedAt < m.departures

theorem Consistent.step {action : Action} (consistent : Consistent id (m.act ws id action)) :
    Guarded id (m.step ws id action) := by
  obtain ⟨row, hrow, hstored⟩ := consistent.stored
  have hresolved : (m.act ws id action).db.isResolved id = row.status.isResolved := by
    rw [Db.isResolved, hrow]
    rfl
  unfold Machine.step
  dsimp only
  cases hstatus : row.status.isResolved with
  | true =>
    rw [hresolved, hstatus, if_pos rfl]
    refine ⟨consistent, ?_⟩
    intro haway
    rw [hresolved, hstatus] at haway
    cases haway
  | false =>
    rw [hresolved, hstatus, if_neg Bool.false_ne_true]
    refine ⟨⟨⟨row, hrow, ?_⟩, ?_⟩, ?_⟩
    · intro taskId htask
      rw [(hstored taskId htask).1] at hstatus
      cases hstatus
    · intro worker execution hexecution
      obtain ⟨hticket, htask, hle⟩ := consistent.loaded worker execution hexecution
      exact ⟨hticket, htask, Nat.le_succ_of_le hle⟩
    · intro _ worker execution hexecution
      exact Nat.lt_succ_of_le (consistent.loaded worker execution hexecution).2.2

/-- A status change keeps the stored task id only within the resolved status, provided that
a ticket which leaves it was read in it. -/
theorem Holding.change {P : ℕ → Prop} (req : Request) (newStatus : TicketStatus) {ticket : Ticket}
    {db : Db} (holding : Holding P id db)
    (hleaves : db.isResolved id = true → newStatus.isResolved = false →
      ticket.status ≠ newStatus → ticket.status.isResolved = true) :
    Holding P id (changeTicketStatus ws req newStatus { db, id, ticket }).db := by
  by_cases hsame : ticket.status = newStatus
  · rw [changeTicketStatus, if_pos hsame]
    exact holding
  obtain ⟨previous, hprevious, hstored⟩ := holding
  obtain ⟨row, hrow, hstatus, htask⟩ := changeTicketStatus_row req
    (s := { db, id, ticket }) hprevious hsame
  refine ⟨row, hrow, ?_⟩
  intro taskId hsome
  rw [htask] at hsome
  split at hsome
  · cases hsome
  rename_i hkept
  obtain ⟨hresolved, hP⟩ := hstored taskId hsome
  have hdb : db.isResolved id = true := by
    rw [Db.isResolved, hprevious]
    exact hresolved
  rw [hstatus]
  cases hnew : newStatus.isResolved with
  | true => exact ⟨rfl, hP⟩
  | false => exact absurd (resolvedEdge_iff.mpr ⟨hleaves hdb hnew hsame, hnew⟩) hkept

theorem Holding.congr {P : ℕ → Prop} {db db' : Db} (holding : Holding P id db)
    (htickets : db'.tickets id = db.tickets id) : Holding P id db' := by
  obtain ⟨row, hrow, hstored⟩ := holding
  exact ⟨row, by rw [htickets, hrow], hstored⟩

theorem Holding.mono {P Q : ℕ → Prop} {db : Db} (holding : Holding P id db)
    (himp : ∀ taskId, P taskId → Q taskId) : Holding Q id db := by
  obtain ⟨row, hrow, hstored⟩ := holding
  refine ⟨row, hrow, fun taskId htask => ?_⟩
  obtain ⟨hresolved, hP⟩ := hstored taskId htask
  exact ⟨hresolved, himp taskId hP⟩

theorem Holding.setAutoCloseTaskId {P : ℕ → Prop} {db : Db} (holding : Holding P id db)
    {stored : Option ℕ}
    (hstored : ∀ taskId, stored = some taskId → db.isResolved id = true ∧ P taskId) :
    Holding P id (db.setAutoCloseTaskId id stored) := by
  obtain ⟨row, hrow, -⟩ := holding
  refine ⟨{ row with autoCloseTaskId := stored }, ?_, ?_⟩
  · simp [hrow]
  · intro taskId htask
    obtain ⟨hresolved, hP⟩ := hstored taskId htask
    rw [Db.isResolved, hrow] at hresolved
    exact ⟨hresolved, hP⟩

theorem Guarded.resolved {worker : ℕ} {execution : Execution} (guarded : Guarded id m)
    (hexecution : m.executions worker = some execution)
    (hloaded : execution.loadedAt = m.departures) : m.db.isResolved id = true := by
  by_contra haway
  rw [Bool.not_eq_true] at haway
  have hlt := guarded.away haway worker execution hexecution
  omega

theorem Guarded.inForce {worker : ℕ} {execution : Execution} (guarded : Guarded id m)
    (hexecution : m.executions worker = some execution)
    (hloaded : execution.loadedAt = m.departures) : m.InForce id execution.taskId := by
  refine ⟨guarded.resolved hexecution hloaded, ?_⟩
  rw [(guarded.loaded worker execution hexecution).2.1, hloaded]

theorem Consistent.of_tasks {m' : Machine} (consistent : Consistent id m)
    (hdepartures : m'.departures = m.departures)
    (hstored : Holding (fun taskId => m'.tasks[taskId]? = some m'.departures) id m'.db)
    (htasks : ∀ taskId resolution : ℕ, m.tasks[taskId]? = some resolution →
      m'.tasks[taskId]? = some resolution)
    (hexecutions : ∀ worker execution, m'.executions worker = some execution →
      m.executions worker = some execution) : Consistent id m' where
  stored := hstored
  loaded worker execution hexecution := by
    obtain ⟨hticket, htask, hle⟩ := consistent.loaded worker execution
      (hexecutions worker execution hexecution)
    exact ⟨hticket, htasks _ _ htask, hdepartures ▸ hle⟩

theorem act_consistent {action : Action} (guarded : Guarded id m)
    (hkeeps : keepsInForce id m action = true) : Consistent id (m.act ws id action) := by
  have hsame := guarded.toConsistent
  cases action with
  | load request => exact hsame.of_tasks rfl hsame.stored (fun _ _ h => h) fun _ _ h => h
  | change request newStatus req =>
    dsimp only [Machine.act]
    split
    · exact hsame
    rename_i ticket hinstance
    refine hsame.of_tasks rfl ?_ (fun _ _ h => h) fun _ _ h => h
    refine (hsame.stored.change req newStatus ?_).congr rfl
    intro hresolved hnew hchanged
    simpa [keepsInForce, hresolved, hnew, hinstance, hchanged] using hkeeps
  | enqueue hook brokerUp =>
    dsimp only [Machine.act]
    split
    · exact hsame
    rename_i resolution hhook
    split
    · have hgrows : ∀ taskId known : ℕ, m.tasks[taskId]? = some known →
          (m.tasks ++ [resolution])[taskId]? = some known := by
        intro taskId known hknown
        rw [List.getElem?_append_left (List.getElem?_eq_some_iff.mp hknown).1, hknown]
      exact hsame.of_tasks rfl (hsame.stored.mono fun taskId h => hgrows taskId _ h) hgrows
        fun _ _ h => h
    · exact hsame.of_tasks rfl hsame.stored (fun _ _ h => h) fun _ _ h => h
  | storeId taskId =>
    dsimp only [Machine.act]
    split
    · rename_i hunstored
      have hinForce : m.InForce id taskId := by
        simpa [keepsInForce, hunstored] using hkeeps
      refine hsame.of_tasks rfl ?_ (fun _ _ h => h) fun _ _ h => h
      apply hsame.stored.setAutoCloseTaskId
      intro other hother
      rw [← Option.some.inj hother]
      exact hinForce
    · exact hsame
  | loadForClose worker taskId =>
    dsimp only [Machine.act]
    split
    · exact hsame
    rename_i ticket hticket
    split
    · rename_i hguards
      obtain ⟨-, hslug, htask⟩ := hguards
      refine ⟨hsame.stored, ?_⟩
      intro other execution hexecution
      dsimp only at hexecution ⊢
      by_cases hother : other = worker
      · subst hother
        rw [Function.update_self, Option.some.injEq] at hexecution
        obtain ⟨row, hrow, hstored⟩ := hsame.stored
        rw [hticket, Option.some.injEq] at hrow
        subst hrow
        obtain ⟨hresolved, hforce⟩ := hstored taskId htask
        rw [← hexecution]
        exact ⟨hresolved, hforce, le_rfl⟩
      · rw [Function.update_of_ne hother] at hexecution
        exact hsame.loaded other execution hexecution
    · exact hsame
  | close worker req =>
    dsimp only [Machine.act]
    split
    · exact hsame
    rename_i execution hexecution
    have hothers : ∀ other found, Function.update m.executions worker none other = some found →
        m.executions other = some found := by
      intro other found hfound
      by_cases hother : other = worker
      · subst hother
        rw [Function.update_self] at hfound
        cases hfound
      · rwa [Function.update_of_ne hother] at hfound
    split
    · exact hsame.of_tasks rfl hsame.stored (fun _ _ h => h) hothers
    · rename_i closedStatus hclosed
      refine hsame.of_tasks rfl ?_ (fun _ _ h => h) hothers
      exact (hsame.stored.change req closedStatus
        fun _ _ _ => (hsame.loaded worker execution hexecution).1).congr rfl
  | clearId =>
    dsimp only [Machine.act]
    split
    · exact hsame
    · refine hsame.of_tasks rfl ?_ (fun _ _ h => h) fun _ _ h => h
      exact hsame.stored.setAutoCloseTaskId fun taskId hnone => by cases hnone

theorem step_guarded {action : Action} (guarded : Guarded id m)
    (hkeeps : keepsInForce id m action = true) : Guarded id (m.step ws id action) :=
  (act_consistent guarded hkeeps).step

theorem Guarded.closesInForce {action : Action} (guarded : Guarded id m)
    (hkeeps : keepsInForce id m action = true) : ClosesInForce ws id m action := by
  cases action <;> try trivial
  case close worker req =>
    intro execution hexecution _
    rw [Option.mem_def] at hexecution
    apply guarded.inForce hexecution
    simpa [keepsInForce, hexecution] using hkeeps

/-! ## Runs -/

/-- The machine before its first action: a stored ticket without a task. -/
def Machine.start (db : Db) : Machine := { db }

theorem start_guarded {db : Db} {row : Ticket} (hrow : db.tickets id = some row)
    (htask : row.autoCloseTaskId = none) : Guarded id (Machine.start db) where
  stored := by
    refine ⟨row, hrow, ?_⟩
    intro taskId hsome
    rw [htask] at hsome
    cases hsome
  loaded _ _ hexecution := by cases hexecution
  away _ _ _ hexecution := by cases hexecution

/-- In every interleaving of admitted steps, executions change a status only in force. -/
theorem closes_in_force_throughout (ws : Workspace) (id : ℕ) (db : Db) (row : Ticket)
    (hrow : db.tickets id = some row) (htask : row.autoCloseTaskId = none)
    (actions : List Action)
    (hkeeps : Every (Machine.step ws id) (fun m action => keepsInForce id m action = true)
      (Machine.start db) actions) :
    Every (Machine.step ws id) (ClosesInForce ws id) (Machine.start db) actions := by
  refine every_of_invariant (Guarded id) ?_ ?_ (start_guarded hrow htask) actions hkeeps
  · intro m action guarded hadmitted
    exact guarded.closesInForce hadmitted
  · intro m action guarded hadmitted
    exact step_guarded guarded hadmitted

/-- A store with one open ticket. -/
def Db.oneTicket : Db :=
  { tickets := fun id =>
      if id = 0 then
        some
          { status := { pk := 0, name := "Open", slug := "open", order := 10, isDefault := true }
            createdBy := 1
            createdAt := 0
            updatedAt := 0 }
      else none
    ticketIds := [0] }

def openStatus : TicketStatus :=
  { pk := 0, name := "Open", slug := "open", order := 10, isDefault := true }

def resolvedStatus : TicketStatus := { pk := 3, name := "Resolved", slug := "resolved", order := 40 }

/-- The ticket is resolved, and its task closes it. -/
def closedInTime : List Action :=
  [ .load 0, .change 0 resolvedStatus { clock := ⟨10, 10, 10, 10⟩ }, .enqueue 0 true, .storeId 0,
    .loadForClose 0 0, .close 0 { clock := ⟨60, 60, 60, 60⟩ }, .clearId ]

theorem closes_in_force_on_closedInTime :
    Every (Machine.step .seeded 0) (ClosesInForce .seeded 0) (Machine.start .oneTicket)
      closedInTime :=
  closes_in_force_throughout .seeded 0 .oneTicket _ rfl rfl closedInTime (by decide)

/-- The ticket is reopened and resolved again before the id of the first task is stored. -/
def storedLate : List Action :=
  [ .load 0, .change 0 resolvedStatus { clock := ⟨10, 10, 10, 10⟩ }, .enqueue 0 true,
    .load 1, .change 1 openStatus { clock := ⟨20, 20, 20, 20⟩ },
    .load 2, .change 2 resolvedStatus { clock := ⟨30, 30, 30, 30⟩ }, .storeId 0,
    .loadForClose 0 0, .close 0 { clock := ⟨60, 60, 60, 60⟩ } ]

theorem closes_out_of_force_on_storedLate :
    ¬ Every (Machine.step .seeded 0) (ClosesInForce .seeded 0) (Machine.start .oneTicket)
      storedLate := by
  decide

end Kanzan.Tickets

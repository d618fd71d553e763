import Kanzan.Inbox.ServiceLaws
import Kanzan.Support.Processes

/-!
# Concurrent engines

Any number of processes in `try_assign` and `drain_department_backlog`.  A turn is one
statement of the database, which sees what has been committed; nobody else sees what a
transaction has written before its end.  Selections and backlogs are read without locks.
`assign_to` locks the row of the email and then that of the agent, and keeps both until its
transaction ends.
-/

namespace Kanzan.Inbox.Engines

open Sla Support Agents Tickets

/-! ## The processes -/

/-- A row that a transaction locks. -/
inductive LockedRow where
  | hubEmail (id : ℕ)
  | availability (user : ℕ)
  deriving DecidableEq

/-- A call of `assign_to`, with the time at which it began. -/
structure Job where
  id : ℕ
  user : ℕ
  actor : Option ℕ
  now : Instant
  deriving DecidableEq, Repr

/-- The next statement of `assign_to`, with the instance that it works on. -/
inductive Statement where
  | lockEmail
  | lockAgent (he : HubEmail)
  | saveEmail (he : HubEmail)
  | createAssignment
  | updateAgent
  | commit

/-- The rows that a transaction has written. -/
structure Writes where
  hubEmail : Option HubEmail := none
  assignment : Option HubEmailAssignment := none
  availability : Option AgentAvailability := none

/-- How far a process has come. -/
inductive Call where
  | idle
  /-- `_select_agent` for an instance: the availability of the agents is read. -/
  | selectAgent (id : ℕ) (he : HubEmail) (actor : Option ℕ)
  /-- The loads of the candidates are read. -/
  | hubLoads (id : ℕ) (he : HubEmail) (actor : Option ℕ) (view : HubDb)
  /-- Their last assignments are read. -/
  | lastAssigned (id : ℕ) (he : HubEmail) (actor : Option ℕ) (view : HubDb)
  /-- `drain_department_backlog` for a user: his availability is read. -/
  | drain (user : ℕ)
  /-- The oldest held emails are listed. -/
  | listHeld (user remaining : ℕ)
  /-- `assign_to` is called for one email after another. -/
  | assignEach (user : ℕ) (actor : Option ℕ) (ids : List ℕ)
  | inTransaction (job : Job) (rest : List ℕ) (next : Statement) (writes : Writes)

/-- What has been committed, the locks, and as history the calls of `assign_to` that have
assigned their email, in the order of their commits. -/
structure Shared where
  db : HubDb
  locks : Locks LockedRow := fun _ => none
  granted : List Job := []

inductive Action where
  | tryAssign (id : ℕ) (he : HubEmail) (actor : Option ℕ)
  | drain (user : ℕ)
  | proceed (now : Instant)
  /-- The next statement raises an exception. -/
  | fail
  /-- An email is parked. -/
  | park (req : Request) (id : ℕ)
  /-- The columns of an agent's availability are written, apart from the counter. -/
  | present (user : ℕ) (columns : AgentAvailability)

def Job.clock (job : Job) (autoNow : Instant) : Clock := ⟨job.now, autoNow, autoNow, autoNow⟩

/-- The row that `assign_to` creates for the engine. -/
def Job.assignment (job : Job) : HubEmailAssignment :=
  { hubEmail := job.id, assignedTo := job.user, assignedBy := job.actor, reason := .auto }

def saveAssigned (job : Job) (he : HubEmail) (now : Instant) (row : HubEmail) : HubEmail :=
  { row with
    assignee := some job.user
    firstAssignedAt := he.firstAssignedAt.or (some job.now)
    state := .assigned
    updatedAt := now }

def commit (job : Job) (writes : Writes) (db : HubDb) : HubDb :=
  { db with
    emails := fun id => if id = job.id then writes.hubEmail.or (db.emails id) else db.emails id
    assignments := db.assignments ++ writes.assignment.toList
    agents := fun user =>
      if user = job.user then writes.availability.or (db.agents user) else db.agents user }

def present (columns avail : AgentAvailability) : AgentAvailability :=
  { columns with currentTicketCount := avail.currentTicketCount }

section Turns

variable (hub : Hub) (process : ℕ) (shared : Shared)

def Shared.release : Shared :=
  { shared with locks := shared.locks.keep process fun _ => false }

/-- The candidates of `_select_agent`, by what is stored. -/
def candidates (now : Instant) (he : HubEmail) (db : HubDb) : List ℕ :=
  db.agentIds.filter fun user =>
    (candidateUserIds hub he).contains user &&
      (db.agents user).any (AgentAvailability.isAssignable hub.site now)

/-- The next statement of a transaction; a row that somebody else has locked is waited for. -/
def statement (job : Job) (rest : List ℕ) (writes : Writes) (now : Instant) :
    Statement → Shared × Call
  | .lockEmail =>
    if shared.locks.free process (.hubEmail job.id) then
      match shared.db.emails job.id with
      | none => (shared.release process, .idle)
      | some he =>
        if he.held then
          ({ shared with locks := shared.locks.take process (.hubEmail job.id) },
            .inTransaction job rest (.lockAgent he) writes)
        else (shared.release process, .assignEach job.user job.actor rest)
    else (shared, .inTransaction job rest .lockEmail writes)
  | .lockAgent he =>
    match shared.db.agents job.user with
    | none => (shared.release process, .assignEach job.user job.actor rest)
    | some avail =>
      if shared.locks.free process (.availability job.user) then
        if avail.isAssignable hub.site now then
          ({ shared with locks := shared.locks.take process (.availability job.user) },
            .inTransaction job rest (.saveEmail he) writes)
        else (shared.release process, .assignEach job.user job.actor rest)
      else (shared, .inTransaction job rest (.lockAgent he) writes)
  | .saveEmail he =>
    (shared, .inTransaction job rest .createAssignment
      { writes with hubEmail := (shared.db.emails job.id).map (saveAssigned job he now) })
  | .createAssignment =>
    (shared, .inTransaction job rest .updateAgent
      { writes with assignment := some job.assignment })
  | .updateAgent =>
    (shared, .inTransaction job rest .commit
      { writes with availability := (shared.db.agents job.user).map (.takeOn job.now) })
  | .commit =>
    ({ db := commit job writes shared.db
       locks := shared.locks.keep process fun _ => false
       granted := shared.granted ++ (writes.hubEmail.map fun _ => job).toList },
      .assignEach job.user job.actor rest)

def proceed (now : Instant) : Call → Shared × Call
  | .idle => (shared, .idle)
  | .selectAgent id he actor =>
    match candidates hub now he shared.db with
    | [] => (shared, .idle)
    | agentIds =>
      (shared, .hubLoads id he actor { agents := shared.db.agents, agentIds })
  | .hubLoads id he actor view =>
    (shared, .lastAssigned id he actor
      { view with emails := shared.db.emails, emailIds := shared.db.emailIds })
  | .lastAssigned id he actor view =>
    let view := { view with assignments := shared.db.assignments }
    match firstLeast (sortKey (strategyChain hub he) view) view.agentIds with
    | none => (shared, .idle)
    | some user => (shared, .assignEach user actor [id])
  | .drain user =>
    match shared.db.agents user with
    | none => (shared, .idle)
    | some avail =>
      if !hub.inboxHubAutoAssign || !avail.isAssignable hub.site now then (shared, .idle)
      else (shared, .listHeld user avail.remainingCapacity)
  | .listHeld user remaining =>
    (shared, .assignEach user none (backlog hub user remaining shared.db))
  | .assignEach _ _ [] => (shared, .idle)
  | .assignEach user actor (id :: rest) =>
    (shared, .inTransaction { id, user, actor, now } rest .lockEmail {})
  | .inTransaction job rest next writes => statement hub process shared job rest writes now next

def act (call : Call) : Action → Shared × Call
  | .tryAssign id he actor =>
    match call with
    | .idle => (shared, .selectAgent id he actor)
    | _ => (shared, call)
  | .drain user =>
    match call with
    | .idle => (shared, .drain user)
    | _ => (shared, call)
  | .proceed now => proceed hub process shared now call
  | .fail => (shared.release process, .idle)
  | .park req id => ({ shared with db := parkEmailInHub req id shared.db }, call)
  | .present user columns =>
    if shared.locks (.availability user) = none then
      ({ shared with db := shared.db.updateAgent user (present columns) }, call)
    else (shared, call)

abbrev turn : World Shared Call → ℕ × Action → World Shared Call := World.turn (act hub)

def opening (db : HubDb) : World Shared Call := { shared := { db }, locals := fun _ => .idle }

end Turns

/-- A commit of all three rows is what `assign_to` commits. -/
theorem commit_eq {job : Job} {writes : Writes} {db : HubDb} {he : HubEmail}
    {avail : AgentAvailability} {autoNow : Instant} (hemail : db.emails job.id = some he)
    (hagent : db.agents job.user = some avail)
    (hwrites : writes =
      { hubEmail := some (he.assign (job.clock autoNow) job.user)
        assignment := some job.assignment
        availability := some (avail.takeOn job.now) }) :
    commit job writes db = commitAssignment
      { clock := job.clock autoNow, actor := job.actor } job.id job.user .auto db := by
  have hemails : (commit job writes db).emails =
      (db.updateEmail job.id (.assign (job.clock autoNow) job.user)).emails := by
    funext id
    by_cases hid : id = job.id
    · subst hid
      simp [commit, HubDb.updateEmail, hwrites, hemail]
    · simp [commit, HubDb.updateEmail, hid]
  have hagents : (commit job writes db).agents =
      (db.updateAgent job.user (.takeOn job.now)).agents := by
    funext user
    by_cases huser : user = job.user
    · subst huser
      simp [commit, HubDb.updateAgent, hwrites, hagent]
    · simp [commit, HubDb.updateAgent, huser]
  have hassignments : (commit job writes db).assignments = db.assignments ++ [job.assignment] := by
    rw [hwrites]
    rfl
  calc commit job writes db
      = { db with
          emails := (commit job writes db).emails
          assignments := (commit job writes db).assignments
          agents := (commit job writes db).agents } := rfl
    _ = _ := by
      rw [hemails, hassignments, hagents]
      rfl

end Kanzan.Inbox.Engines

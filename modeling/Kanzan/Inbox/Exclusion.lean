import Kanzan.Inbox.Engines

/-!
# Engines exclude each other

A transaction that has come to its end has kept the two rows locked that it read, so that
its commit is one assignment of a held email to an assignable agent, whatever the others did
in the meantime.
-/

namespace Kanzan.Inbox.Engines

open Sla Support Agents Tickets

/-! ## What a transaction relies on -/

section Assertions

variable (hub : Hub) (process : ℕ) (shared : Shared) (job : Job)

/-- The email of a job is locked, and held as it was read. -/
structure HoldsEmail (he : HubEmail) : Prop where
  lock : shared.locks (.hubEmail job.id) = some process
  row : shared.db.emails job.id = some he
  held : he.held = true

/-- The agent of a job is locked, and was found assignable. -/
structure HoldsAgent : Prop where
  lock : shared.locks (.availability job.user) = some process
  row : ∃ avail now, shared.db.agents job.user = some avail ∧
    avail.isAssignable hub.site now = true

def Relies (writes : Writes) : Statement → Prop
  | .lockEmail => writes = {}
  | .lockAgent he => HoldsEmail process shared job he ∧ writes = {}
  | .saveEmail he =>
    HoldsEmail process shared job he ∧ HoldsAgent hub process shared job ∧ writes = {}
  | .createAssignment =>
    ∃ he autoNow, HoldsEmail process shared job he ∧ HoldsAgent hub process shared job ∧
      writes = { hubEmail := some (he.assign (job.clock autoNow) job.user) }
  | .updateAgent =>
    ∃ he autoNow, HoldsEmail process shared job he ∧ HoldsAgent hub process shared job ∧
      writes =
        { hubEmail := some (he.assign (job.clock autoNow) job.user)
          assignment := some job.assignment }
  | .commit =>
    ∃ he autoNow, HoldsEmail process shared job he ∧ HoldsAgent hub process shared job ∧
      writes =
        { hubEmail := some (he.assign (job.clock autoNow) job.user)
          assignment := some job.assignment
          availability := (shared.db.agents job.user).map (.takeOn job.now) }

def Sane : Call → Prop
  | .inTransaction job _ next writes => Relies hub process shared job writes next
  | _ => True

/-- What a turn leaves to a process: its locks, and the rows that it has locked. -/
structure Spares (shared' : Shared) : Prop where
  locks : ∀ row, shared.locks row = some process → shared'.locks row = some process
  emails : ∀ id he, shared.locks (.hubEmail id) = some process →
    shared.db.emails id = some he → shared'.db.emails id = some he
  agents : ∀ user, shared.locks (.availability user) = some process →
    shared'.db.agents user = shared.db.agents user

end Assertions

variable {start : HubDb}

section Laws

variable {hub : Hub} {process other : ℕ} {shared shared' : Shared} {job : Job} {call : Call}
  {he : HubEmail} {writes : Writes} {db db' : HubDb}

theorem Spares.of_respects (hother : other ≠ process)
    (hlocks : Locks.Respects process shared.locks shared'.locks) (hdb : shared'.db = shared.db) :
    Spares other shared shared' where
  locks row hlock := hlocks row other hother hlock
  emails _ _ _ hrow := hdb ▸ hrow
  agents _ _ := hdb ▸ rfl

theorem HoldsEmail.spared (holds : HoldsEmail process shared job he)
    (spares : Spares process shared shared') : HoldsEmail process shared' job he where
  lock := spares.locks _ holds.lock
  row := spares.emails job.id he holds.lock holds.row
  held := holds.held

theorem HoldsAgent.spared (holds : HoldsAgent hub process shared job)
    (spares : Spares process shared shared') : HoldsAgent hub process shared' job where
  lock := spares.locks _ holds.lock
  row := by
    rw [spares.agents job.user holds.lock]
    exact holds.row

theorem Sane.spared (sane : Sane hub process shared call)
    (spares : Spares process shared shared') : Sane hub process shared' call := by
  cases call with
  | inTransaction job rest next writes =>
    cases next with
    | lockEmail => exact sane
    | lockAgent he => exact ⟨sane.1.spared spares, sane.2⟩
    | saveEmail he => exact ⟨sane.1.spared spares, sane.2.1.spared spares, sane.2.2⟩
    | createAssignment =>
      obtain ⟨he, autoNow, hemail, hagent, hwrites⟩ := sane
      exact ⟨he, autoNow, hemail.spared spares, hagent.spared spares, hwrites⟩
    | updateAgent =>
      obtain ⟨he, autoNow, hemail, hagent, hwrites⟩ := sane
      exact ⟨he, autoNow, hemail.spared spares, hagent.spared spares, hwrites⟩
    | commit =>
      obtain ⟨he, autoNow, hemail, hagent, hwrites⟩ := sane
      rw [← spares.agents job.user hagent.lock] at hwrites
      exact ⟨he, autoNow, hemail.spared spares, hagent.spared spares, hwrites⟩
  | _ => trivial

/-! ## What a turn does -/

/-- One assignment of a held email to an agent who was found assignable. -/
structure Grants (hub : Hub) (job : Job) (db db' : HubDb) : Prop where
  email : ∃ he, db.emails job.id = some he ∧ he.held = true
  agent : ∃ avail now, db.agents job.user = some avail ∧ avail.isAssignable hub.site now = true
  committed : ∃ autoNow, db' = commitAssignment
    { clock := job.clock autoNow, actor := job.actor } job.id job.user .auto db

/-- Neither emails nor assignments nor counters change. -/
structure Quiet (db db' : HubDb) : Prop where
  emails : ∀ id he, db.emails id = some he → db'.emails id = some he
  assignments : db'.assignments = db.assignments
  counters : ∀ user, (db'.agents user).map AgentAvailability.currentTicketCount =
    (db.agents user).map AgentAvailability.currentTicketCount

theorem Quiet.refl (db : HubDb) : Quiet db db := ⟨fun _ _ hrow => hrow, rfl, fun _ => rfl⟩

/-- The effect of a turn on what is committed. -/
inductive Effect (hub : Hub) (shared shared' : Shared) : Prop
  | quiet (granted : shared'.granted = shared.granted) (quiet : Quiet shared.db shared'.db)
  | grants (job : Job) (granted : shared'.granted = shared.granted ++ [job])
      (grants : Grants hub job shared.db shared'.db)

theorem Effect.of_same (hgranted : shared'.granted = shared.granted)
    (hdb : shared'.db = shared.db) : Effect hub shared shared' :=
  .quiet hgranted (hdb ▸ .refl _)

/-- What a turn of a process comes to. -/
structure Turned (hub : Hub) (process : ℕ) (shared : Shared) (after : Shared × Call) : Prop where
  sane : Sane hub process after.1 after.2
  spares : ∀ other ≠ process, Spares other shared after.1
  effect : Effect hub shared after.1

theorem Turned.read (sane : Sane hub process shared call) :
    Turned hub process shared (shared, call) where
  sane := sane
  spares _ hother := .of_respects hother (.refl process _) rfl
  effect := .of_same rfl rfl

theorem Turned.release (hidle : ∀ shared, Sane hub process shared call) :
    Turned hub process shared (shared.release process, call) where
  sane := hidle _
  spares _ hother := .of_respects hother Locks.keep_respects rfl
  effect := .of_same rfl rfl

theorem Turned.take {row : LockedRow} (hfree : shared.locks.free process row = true)
    (sane : Sane hub process { shared with locks := shared.locks.take process row } call) :
    Turned hub process shared ({ shared with locks := shared.locks.take process row }, call) where
  sane := sane
  spares _ hother := .of_respects hother (Locks.take_respects hfree) rfl
  effect := .of_same rfl rfl

theorem commit_grants (hemail : HoldsEmail process shared job he)
    (hagent : HoldsAgent hub process shared job) {autoNow : Instant}
    (hwrites : writes =
      { hubEmail := some (he.assign (job.clock autoNow) job.user)
        assignment := some job.assignment
        availability := (shared.db.agents job.user).map (.takeOn job.now) }) :
    Grants hub job shared.db (commit job writes shared.db) where
  email := ⟨he, hemail.row, hemail.held⟩
  agent := hagent.row
  committed := by
    obtain ⟨avail, now, hrow, -⟩ := hagent.row
    rw [hrow] at hwrites
    exact ⟨autoNow, commit_eq hemail.row hrow hwrites⟩

theorem commit_spares (hother : other ≠ process) (hemail : HoldsEmail process shared job he)
    (hagent : HoldsAgent hub process shared job) {granted : List Job} :
    Spares other shared
      { db := commit job writes shared.db
        locks := shared.locks.keep process fun _ => false
        granted } where
  locks row hlock := by
    have hkept : Locks.Respects process shared.locks (shared.locks.keep process fun _ => false) :=
      Locks.keep_respects
    exact hkept row other hother hlock
  emails id row hlock hrow := by
    have hid : id ≠ job.id := by
      rintro rfl
      exact hother (Option.some.inj (hlock.symm.trans hemail.lock))
    exact (if_neg hid).trans hrow
  agents user hlock := by
    refine if_neg ?_
    rintro rfl
    exact hother (Option.some.inj (hlock.symm.trans hagent.lock))

theorem statement_turned {rest : List ℕ} {next : Statement} (now : Instant)
    (relies : Relies hub process shared job writes next) :
    Turned hub process shared (statement hub process shared job rest writes now next) := by
  have hover : ∀ {call}, (∀ shared, Sane hub process shared call) →
      Turned hub process shared (shared.release process, call) := fun hidle => .release hidle
  cases next with
  | lockEmail =>
    simp only [statement]
    split
    · rename_i hfree
      cases hrow : shared.db.emails job.id with
      | none => exact hover fun _ => trivial
      | some he =>
        dsimp only
        split
        · rename_i hheld
          exact .take hfree ⟨⟨Locks.take_self, hrow, hheld⟩, relies⟩
        · exact hover fun _ => trivial
    · exact .read relies
  | lockAgent he =>
    obtain ⟨hemail, hwrites⟩ := relies
    simp only [statement]
    cases hrow : shared.db.agents job.user with
    | none => exact hover fun _ => trivial
    | some avail =>
      dsimp only
      split
      · rename_i hfree
        split
        · rename_i hassignable
          have hlock : shared.locks.take process (.availability job.user)
              (.hubEmail job.id) = some process := Locks.take_of_held hemail.lock
          have hkept : HoldsEmail process { shared with
              locks := shared.locks.take process (.availability job.user) } job he :=
            ⟨hlock, hemail.row, hemail.held⟩
          exact .take hfree
            ⟨hkept, ⟨Locks.take_self, avail, now, hrow, hassignable⟩, hwrites⟩
        · exact hover fun _ => trivial
      · exact .read ⟨hemail, hwrites⟩
  | saveEmail he =>
    obtain ⟨hemail, hagent, hwrites⟩ := relies
    refine .read ⟨he, now, hemail, hagent, ?_⟩
    rw [hwrites, hemail.row]
    rfl
  | createAssignment =>
    obtain ⟨he, autoNow, hemail, hagent, hwrites⟩ := relies
    refine .read ⟨he, autoNow, hemail, hagent, ?_⟩
    rw [hwrites]
  | updateAgent =>
    obtain ⟨he, autoNow, hemail, hagent, hwrites⟩ := relies
    refine .read ⟨he, autoNow, hemail, hagent, ?_⟩
    rw [hwrites]
  | commit =>
    obtain ⟨he, autoNow, hemail, hagent, hwrites⟩ := relies
    exact {
      sane := trivial
      spares := fun _ hother => commit_spares hother hemail hagent
      effect := .grants job (by rw [hwrites]; rfl) (commit_grants hemail hagent hwrites) }

theorem proceed_turned (now : Instant) (sane : Sane hub process shared call) :
    Turned hub process shared (proceed hub process shared now call) := by
  have hread : ∀ {call}, Sane hub process shared call →
      Turned hub process shared (shared, call) := .read
  cases call with
  | idle => exact hread trivial
  | selectAgent id he actor =>
    simp only [proceed]
    split <;> exact hread trivial
  | hubLoads id he actor view => exact hread trivial
  | lastAssigned id he actor view =>
    simp only [proceed]
    split <;> exact hread trivial
  | drain user =>
    simp only [proceed]
    split
    · exact hread trivial
    · split <;> exact hread trivial
  | listHeld user remaining => exact hread trivial
  | assignEach user actor ids =>
    cases ids with
    | nil => exact hread trivial
    | cons id rest => exact hread rfl
  | inTransaction job rest next writes => exact statement_turned now sane

theorem quiet_park (req : Request) (id : ℕ) (db : HubDb) : Quiet db (parkEmailInHub req id db) := by
  unfold parkEmailInHub
  cases hrow : db.emails id with
  | some he => exact .refl db
  | none =>
    refine ⟨fun other row hother => ?_, rfl, fun _ => rfl⟩
    have hne : other ≠ id := by
      rintro rfl
      rw [hrow] at hother
      cases hother
    exact (Function.update_of_ne hne ..).trans hother

theorem quiet_present (user : ℕ) (columns : AgentAvailability) (db : HubDb) :
    Quiet db (db.updateAgent user (present columns)) := by
  refine ⟨fun _ _ hrow => hrow, rfl, fun other => ?_⟩
  by_cases hother : other = user
  · simp [HubDb.updateAgent, hother, present, Function.comp_def]
  · rw [HubDb.updateAgent_of_ne _ _ _ hother]

theorem Turned.quiet (sane : Sane hub process shared call) (quiet : Quiet shared.db db)
    (hagents : ∀ user, shared.locks (.availability user) ≠ none →
      db.agents user = shared.db.agents user) :
    Turned hub process shared ({ shared with db }, call) := by
  have hspares : ∀ other, Spares other shared { shared with db } := by
    intro other
    refine ⟨fun _ hlock => hlock, fun id he _ hrow => quiet.emails id he hrow, ?_⟩
    intro user hlock
    refine hagents user ?_
    rw [hlock]
    exact Option.some_ne_none other
  exact ⟨sane.spared (hspares process), fun other _ => hspares other, .quiet rfl quiet⟩

theorem act_turned (action : Action) (sane : Sane hub process shared call) :
    Turned hub process shared (act hub process shared call action) := by
  cases action with
  | tryAssign id he actor =>
    cases call with
    | idle => exact .read trivial
    | _ => exact .read sane
  | drain user =>
    cases call with
    | idle => exact .read trivial
    | _ => exact .read sane
  | proceed now => exact proceed_turned now sane
  | fail => exact .release fun _ => trivial
  | park req id =>
    refine .quiet sane (quiet_park req id shared.db) fun user _ => ?_
    unfold parkEmailInHub
    split <;> rfl
  | present user columns =>
    simp only [act]
    split
    · rename_i hunlocked
      refine .quiet sane (quiet_present user columns shared.db) fun other hlocked => ?_
      refine HubDb.updateAgent_of_ne _ _ _ ?_
      rintro rfl
      exact hlocked hunlocked
    · exact .read sane

/-! ## Schedules -/

/-- The history agrees with what is stored. -/
structure Recorded (start : HubDb) (shared : Shared) : Prop where
  once : (shared.granted.map Job.id).Nodup
  taken : ∀ job ∈ shared.granted, ∃ he, shared.db.emails job.id = some he ∧
    he.assignee = some job.user
  assignments : shared.db.assignments = start.assignments ++ shared.granted.map Job.assignment
  counters : ∀ user, (shared.db.agents user).map AgentAvailability.currentTicketCount =
    (start.agents user).map fun avail =>
      avail.currentTicketCount + shared.granted.countP fun job => job.user == user

theorem Recorded.grants (recorded : Recorded start shared)
    (hgranted : shared'.granted = shared.granted ++ [job])
    (grants : Grants hub job shared.db shared'.db) : Recorded start shared' := by
  obtain ⟨he, hrow, hheld⟩ := grants.email
  obtain ⟨autoNow, hdb⟩ := grants.committed
  have hnew : ∀ other ∈ shared.granted, other.id ≠ job.id := by
    intro other hmem heq
    obtain ⟨row, hother, hassignee⟩ := recorded.taken other hmem
    rw [heq, hrow, Option.some.injEq] at hother
    rw [← hother, (HubEmail.held_iff.mp hheld).1] at hassignee
    cases hassignee
  have hemails : shared'.db.emails =
      (shared.db.updateEmail job.id (.assign (job.clock autoNow) job.user)).emails := by
    rw [hdb, commitAssignment_emails]
  refine ⟨?_, ?_, ?_, ?_⟩
  · rw [hgranted, List.map_append, List.map_singleton]
    refine List.nodup_append.mpr ⟨recorded.once, List.nodup_singleton _, ?_⟩
    rintro id hmem last hlast rfl
    obtain ⟨other, hother, rfl⟩ := List.mem_map.mp hmem
    exact hnew other hother (List.mem_singleton.mp hlast)
  · intro other hmem
    rw [hgranted, List.mem_append, List.mem_singleton] at hmem
    rw [hemails]
    rcases hmem with hbefore | rfl
    · rw [HubDb.updateEmail_of_ne _ _ _ (hnew other hbefore)]
      exact recorded.taken other hbefore
    · exact ⟨_, HubDb.updateEmail_of_row _ _ _ hrow, rfl⟩
  · have hrows : shared'.db.assignments = shared.db.assignments ++ [job.assignment] := by
      rw [hdb]
      rfl
    rw [hrows, recorded.assignments, hgranted, List.map_append, List.append_assoc]
    rfl
  · intro user
    have hagents : shared'.db.agents user =
        (shared.db.updateAgent job.user (.takeOn job.now)).agents user := by
      rw [hdb]
      rfl
    have hbefore := recorded.counters user
    rw [hagents, hgranted]
    by_cases huser : user = job.user
    · subst huser
      obtain ⟨avail, now, hagent, -⟩ := grants.agent
      rw [hagent, Option.map_some, eq_comm, Option.map_eq_some_iff] at hbefore
      obtain ⟨first, hfirst, hcount⟩ := hbefore
      rw [HubDb.updateAgent_of_row _ _ _ hagent, hfirst, Option.map_some, Option.map_some,
        List.countP_append, List.countP_singleton, AgentAvailability.takeOn, ← hcount]
      simp [Nat.add_assoc]
    · rw [HubDb.updateAgent_of_ne _ _ _ huser, hbefore]
      simp [List.countP_append, Ne.symm huser]

theorem Recorded.effect (recorded : Recorded start shared) (effect : Effect hub shared shared') :
    Recorded start shared' := by
  cases effect with
  | grants job hgranted grants => exact recorded.grants hgranted grants
  | quiet hgranted quiet =>
    refine ⟨hgranted ▸ recorded.once, ?_, ?_, ?_⟩
    · intro job hmem
      obtain ⟨he, hrow, hassignee⟩ := recorded.taken job (hgranted ▸ hmem)
      exact ⟨he, quiet.emails job.id he hrow, hassignee⟩
    · rw [quiet.assignments, hgranted, recorded.assignments]
    · intro user
      rw [quiet.counters, hgranted, recorded.counters]

theorem engines_sound (hub : Hub) (start : HubDb) :
    World.Sound (act hub) (fun _ _ => True) (Recorded start) (Sane hub) where
  own world process action keeps _ := by
    have turned := act_turned action (keeps.locals process)
    exact ⟨keeps.shared.effect turned.effect, turned.sane⟩
  others world process action other keeps _ hother :=
    (keeps.locals other).spared ((act_turned action (keeps.locals process)).spares other hother)

theorem Grants.withinCapacity (grants : Grants hub job db db') :
    ∃ avail avail', db.agents job.user = some avail ∧ db'.agents job.user = some avail' ∧
      avail'.currentTicketCount = avail.currentTicketCount + 1 ∧
        avail'.currentTicketCount ≤ avail'.maxConcurrentTickets := by
  obtain ⟨avail, now, hrow, hassignable⟩ := grants.agent
  obtain ⟨autoNow, hdb⟩ := grants.committed
  have hafter : db'.agents job.user = some (avail.takeOn job.now) := by
    rw [hdb]
    exact HubDb.updateAgent_of_row _ _ _ hrow
  exact ⟨avail, _, hrow, hafter, rfl, AgentAvailability.lt_of_isAssignable hassignable⟩

/-- What holds of the engine in a state, and of its next turn. -/
structure AssignsOnce (hub : Hub) (start : HubDb) (world : World Shared Call) : Prop where
  /-- No email is assigned twice, and each assignment has its row and its increment. -/
  recorded : Recorded start world.shared
  /-- A turn assigns nothing, or a held email, to an agent who then is within his capacity. -/
  next : ∀ event,
    (turn hub world event).shared.granted = world.shared.granted ∧
        Quiet world.shared.db (turn hub world event).shared.db ∨
      ∃ job he avail, (turn hub world event).shared.granted = world.shared.granted ++ [job] ∧
        world.shared.db.emails job.id = some he ∧ he.held = true ∧
          (turn hub world event).shared.db.assignments =
            world.shared.db.assignments ++ [job.assignment] ∧
              (turn hub world event).shared.db.agents job.user = some avail ∧
                avail.currentTicketCount ≤ avail.maxConcurrentTickets

/-- Under every schedule of any number of engines, each email is assigned once at most, with
one row and one increment, and to an agent who had room for it. -/
theorem engines_assign_once (hub : Hub) (db : HubDb) (events : List (ℕ × Action)) :
    AssignsOnce hub db (run (turn hub) (opening db) events) := by
  have hstart : World.Keeps (Recorded db) (Sane hub) (opening db) := by
    refine ⟨⟨List.nodup_nil, ?_, ?_, ?_⟩, fun _ => trivial⟩
    · intro job hmem
      exact absurd hmem List.not_mem_nil
    · exact (List.append_nil _).symm
    · intro user
      rfl
  have keeps := (engines_sound hub db).run hstart events
    (every_of_forall (fun _ _ => trivial) (opening db) events)
  refine ⟨keeps.shared, fun event => ?_⟩
  have turned := act_turned event.2 (keeps.locals event.1)
  cases turned.effect with
  | quiet hgranted quiet => exact .inl ⟨hgranted, quiet⟩
  | grants job hgranted grants =>
    obtain ⟨he, hrow, hheld⟩ := grants.email
    obtain ⟨avail, avail', -, hafter, -, hcapacity⟩ := grants.withinCapacity
    obtain ⟨autoNow, hdb⟩ := grants.committed
    refine .inr ⟨job, he, avail', hgranted, hrow, hheld, ?_, hafter, hcapacity⟩
    exact hdb ▸ rfl

end Laws

end Kanzan.Inbox.Engines

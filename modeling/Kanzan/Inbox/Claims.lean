import Kanzan.Inbox.ServiceLaws
import Kanzan.Support.Processes

/-!
# Claims of held emails

Members of the hub claim emails for themselves while the engine assigns them.  A claim reads the
row to see whether the member may, and moves the email later, in a transaction that locks the row
and looks at its state only.
-/

namespace Kanzan.Inbox.Claims

open Sla Support Agents Tickets

/-! ## Who may claim -/

/-- A hub with what its gate looks at: the levels of the effective roles, and the departments that
are active. -/
structure Desk extends Hub where
  level : ℕ → ℕ
  activeDepartments : List ℕ := []

namespace Desk

variable (desk : Desk)

/-- `user_department_ids`. -/
def userDepartmentIds (user : ℕ) : List ℕ :=
  ((desk.memberships.filter fun row => row.user == user).map
    DepartmentMembership.department).filter fun department =>
      desk.activeDepartments.contains department

/-- `can_access_inbox_hub`. -/
def canAccessInboxHub (user : ℕ) (db : HubDb) : Bool :=
  if desk.level user ≤ 20 then true
  else if 30 < desk.level user then false
  else if !(desk.userDepartmentIds user).isEmpty then true
  else if desk.activeDepartments.isEmpty then true
  else countEmails db (fun he => he.assignee == some user) != 0

/-- `agent_can_see_hub_email`, and `hub_rows_q` as well. -/
def agentCanSeeHubEmail (user : ℕ) (he : HubEmail) : Bool :=
  if he.assignee = some user then true
  else if he.state ≠ .new then false
  else he.department.all fun department => (desk.userDepartmentIds user).contains department.pk

/-- `get_object` of `HubEmailViewSet.claim`, with its permissions. -/
def getObject (user id : ℕ) (db : HubDb) : Option HubEmail :=
  if desk.workspace.isActiveMember user && desk.canAccessInboxHub user db &&
      decide (desk.level user ≤ 30) then
    (db.emails id).filter fun he =>
      decide (desk.level user ≤ 20) || desk.agentCanSeeHubEmail user he
  else none

end Desk

/-! ## Turns -/

/-- A claim whose transaction has ended. -/
structure Verdict where
  hubEmail : ℕ
  user : ℕ
  granted : Bool
  deriving DecidableEq, Repr

/-- The store, and as history the claims that have ended and the emails that the engine has
assigned. -/
structure ClaimRun where
  db : HubDb
  verdicts : List Verdict := []
  engaged : List ℕ := []

/-- A request that claims an email, with the row as it was read. -/
inductive Claim where
  | idle
  | claiming (id user : ℕ) (he : HubEmail)

inductive Action where
  | claim (user id : ℕ)
  /-- The request goes on with the transaction. -/
  | proceed (clock : Clock)
  /-- The engine calls `assign_to` for a user whom it has chosen at any time before. -/
  | assign (req : Request) (id user : ℕ) (reason : AssignmentReason) (requireOnline : Bool)

section Turns

variable (desk : Desk)

def claimEmail (clock : Clock) (id user : ℕ) (db : HubDb) : Except String HubDb :=
  reassignHubEmail desk.toHub { clock, actor := some user } id user "Claimed" db

def act (run : ClaimRun) (claim : Claim) : Action → ClaimRun × Claim
  | .claim user id =>
    match desk.getObject user id run.db with
    | none => (run, .idle)
    | some he => (run, .claiming id user he)
  | .proceed clock =>
    match claim with
    | .idle => (run, .idle)
    | .claiming id user _ =>
      match claimEmail desk clock id user run.db with
      | .error _ => ({ run with verdicts := run.verdicts ++ [⟨id, user, false⟩] }, .idle)
      | .ok db => ({ run with db, verdicts := run.verdicts ++ [⟨id, user, true⟩] }, .idle)
  | .assign req id user reason requireOnline =>
    match assignTo desk.toHub req id user reason requireOnline run.db with
    | none => (run, claim)
    | some db => ({ run with db, engaged := run.engaged ++ [id] }, claim)

abbrev turn : World ClaimRun Claim → ℕ × Action → World ClaimRun Claim :=
  World.turn fun _ => act desk

def quiet (db : HubDb) : World ClaimRun Claim where
  shared := { db }
  locals _ := .idle

/-! ## The property and its condition -/

def Takes (world : World ClaimRun Claim) : ℕ × Action → Prop
  | (process, .proceed clock) =>
    match world.locals process with
    | .idle => False
    | .claiming id user _ =>
      ∃ row other db, world.shared.db.emails id = some row ∧ row.assignee = some other ∧
        other ≠ user ∧ claimEmail desk clock id user world.shared.db = .ok db
  | _ => False

/-- Of the claims of an email that was held, those of one agent are granted; and some are if any
has ended, unless the engine has assigned the email. -/
def OneClaimant (start : HubDb) (run : ClaimRun) : Prop :=
  ∀ id he, start.emails id = some he → he.held = true →
    (∀ first ∈ run.verdicts, ∀ second ∈ run.verdicts, first.hubEmail = id → second.hubEmail = id →
      first.granted = true → second.granted = true → first.user = second.user) ∧
    (id ∉ run.engaged → ∀ verdict ∈ run.verdicts, verdict.hubEmail = id →
      ∃ winner ∈ run.verdicts, winner.hubEmail = id ∧ winner.granted = true)

/-- The row that the claim has read did not have another agent, and no other has been given the
email since. -/
def Current (world : World ClaimRun Claim) : ℕ × Action → Prop
  | (process, .proceed _) =>
    match world.locals process with
    | .idle => True
    | .claiming id user he =>
      ∀ row, world.shared.db.emails id = some row → row.state.terminal = false →
        (he.assignee = none ∨ he.assignee = some user) ∧
          (row.assignee = he.assignee ∨ row.assignee = some user)
  | _ => True

end Turns

variable {verdicts : List Verdict} {req : Request} {row' : HubEmail}

/-! ## What the turns keep -/

section Laws

variable {desk : Desk} {start db db' : HubDb} {run : ClaimRun} {clock : Clock} {id user : ℕ}
  {he row : HubEmail} {world : World ClaimRun Claim}

theorem getObject_some (hfound : desk.getObject user id db = some he) :
    desk.workspace.isActiveMember user = true ∧ db.emails id = some he := by
  unfold Desk.getObject at hfound
  split at hfound
  · rename_i hgate
    rw [Bool.and_eq_true, Bool.and_eq_true] at hgate
    exact ⟨hgate.1.1, (Option.filter_eq_some_iff.mp hfound).1⟩
  · cases hfound

theorem claimEmail_isOk (hmember : desk.workspace.isActiveMember user = true)
    (hrow : db.emails id = some row) (hopen : row.state.terminal = false) :
    ∃ db', claimEmail desk clock id user db = .ok db' := by
  unfold claimEmail reassignHubEmail
  simp only [hmember, hrow, hopen, Bool.not_true, Bool.false_eq_true, if_false]
  exact ⟨_, rfl⟩

theorem claimEmail_cases (granted : claimEmail desk clock id user db = .ok db') :
    ∃ row, db.emails id = some row ∧ row.state.terminal = false ∧
      db'.emails id = some (row.reassign { clock, actor := some user } user) ∧
      ∀ other, other ≠ id → db'.emails other = db.emails other := by
  obtain ⟨row, assignment, hrow, hopen, rfl⟩ := reassignHubEmail_cases granted
  refine ⟨row, hrow, hopen, ?_, fun other hother => ?_⟩
  · rw [moveLoad_emails]
    exact HubDb.updateEmail_of_row _ _ _ hrow
  · rw [moveLoad_emails]
    exact HubDb.updateEmail_of_ne _ _ _ hother

theorem assignTo_cases {reason : AssignmentReason} {requireOnline : Bool}
    (assigned : assignTo desk.toHub req id user reason requireOnline db = some db') :
    ∃ row, db.emails id = some row ∧ row.held = true ∧
      db'.emails id = some (row.assign req.clock user) ∧
      ∀ other, other ≠ id → db'.emails other = db.emails other := by
  obtain ⟨⟨row, hrow, hheld⟩, -, rfl⟩ := assignTo_eq_some.mp assigned
  refine ⟨row, hrow, hheld, ?_, fun other hother => ?_⟩
  · rw [commitAssignment_emails]
    exact HubDb.updateEmail_of_row _ _ _ hrow
  · rw [commitAssignment_emails]
    exact HubDb.updateEmail_of_ne _ _ _ hother

/-- Nobody has the email and no claim of it has ended, or one agent has it and all claims of it
are his. -/
def Tracked (verdicts : List Verdict) (id : ℕ) (row : HubEmail) : Prop :=
  (row.held = true ∧ ∀ verdict ∈ verdicts, verdict.hubEmail ≠ id) ∨
    ∃ agent, row.assignee = some agent ∧ row.state.terminal = false ∧
      ∀ verdict ∈ verdicts, verdict.hubEmail = id → verdict.granted = true ∧ verdict.user = agent

def Tracks (start : HubDb) (run : ClaimRun) : Prop :=
  ∀ id he, start.emails id = some he → he.held = true →
    ∃ row, run.db.emails id = some row ∧ Tracked run.verdicts id row

/-- A request is a member's, and the agent of the row that it has read still has the email. -/
def Claim.Holds (desk : Desk) (db : HubDb) : Claim → Prop
  | .idle => True
  | .claiming id user he =>
    desk.workspace.isActiveMember user = true ∧ ∃ row, db.emails id = some row ∧
      (he.assignee = none ∨ row.assignee = he.assignee)

abbrev Steady (desk : Desk) (start : HubDb) : World ClaimRun Claim → Prop :=
  World.Keeps (Tracks start) fun _ run claim => claim.Holds desk run.db

theorem Tracks.oneClaimant (tracks : Tracks start run) : OneClaimant start run := by
  intro id he hstart hheld
  obtain ⟨row, -, ⟨-, hnone⟩ | ⟨agent, -, -, hall⟩⟩ := tracks id he hstart hheld
  · exact ⟨fun first hfirst _ _ hid => absurd hid (hnone first hfirst),
      fun _ verdict hverdict hid => absurd hid (hnone verdict hverdict)⟩
  · refine ⟨fun first hfirst second hsecond hid hid' _ _ => ?_, fun _ verdict hverdict hid => ?_⟩
    · exact (hall first hfirst hid).2.trans (hall second hsecond hid').2.symm
    · exact ⟨verdict, hverdict, hid, (hall verdict hverdict hid).1⟩

theorem tracks_quiet (db : HubDb) : Steady desk db (quiet db) where
  shared id he hstart hheld := ⟨he, hstart, .inl ⟨hheld, fun _ hmem => absurd hmem List.not_mem_nil⟩⟩
  locals _ := trivial

theorem Tracked.isOpen (tracked : Tracked verdicts id row) : row.state.terminal = false := by
  obtain ⟨hheld, -⟩ | ⟨_, -, hopen, -⟩ := tracked
  · rw [(HubEmail.held_iff.mp hheld).2]
    rfl
  · exact hopen

theorem Tracked.snoc (tracked : Tracked verdicts id row) {verdict : Verdict}
    (hother : verdict.hubEmail ≠ id) : Tracked (verdicts ++ [verdict]) id row := by
  obtain ⟨hheld, hnone⟩ | ⟨agent, hagent, hopen, hall⟩ := tracked
  · refine .inl ⟨hheld, fun found hmem => ?_⟩
    rcases List.mem_append.mp hmem with hmem | hmem
    · exact hnone found hmem
    · rwa [List.mem_singleton.mp hmem]
  · refine .inr ⟨agent, hagent, hopen, fun found hmem hid => ?_⟩
    rcases List.mem_append.mp hmem with hmem | hmem
    · exact hall found hmem hid
    · rw [List.mem_singleton.mp hmem] at hid
      exact absurd hid hother

theorem Tracked.claimed (tracked : Tracked verdicts id row)
    (hfree : row.assignee = none ∨ row.assignee = some user) (hassignee : row'.assignee = some user)
    (hopen : row'.state.terminal = false) : Tracked (verdicts ++ [⟨id, user, true⟩]) id row' := by
  refine .inr ⟨user, hassignee, hopen, fun found hmem hid => ?_⟩
  rcases List.mem_append.mp hmem with hmem | hmem
  · obtain ⟨-, hnone⟩ | ⟨agent, hagent, -, hall⟩ := tracked
    · exact absurd hid (hnone found hmem)
    · obtain ⟨hgranted, hmine⟩ := hall found hmem hid
      rcases hfree with hfree | hfree
      · rw [hagent] at hfree
        cases hfree
      · rw [hagent, Option.some.injEq] at hfree
        exact ⟨hgranted, hmine.trans hfree⟩
  · rw [List.mem_singleton.mp hmem]
    exact ⟨rfl, rfl⟩

theorem terminal_reassign (hopen : row.state.terminal = false) :
    (row.reassign req user).state.terminal = false := by
  dsimp only [HubEmail.reassign]
  split
  · rfl
  · exact hopen

theorem Claim.Holds.follows {claim : Claim} (holds : claim.Holds desk db)
    (hrow : db.emails id = some row) (hrow' : db'.emails id = some row')
    (hothers : ∀ other, other ≠ id → db'.emails other = db.emails other)
    (hassignee : row'.assignee = some user) (hfree : row.assignee = none ∨ row.assignee = some user)
    : claim.Holds desk db' := by
  cases claim with
  | idle => trivial
  | claiming own member he =>
    obtain ⟨hmember, found, hfound, hagent⟩ := holds
    refine ⟨hmember, ?_⟩
    by_cases hown : own = id
    · subst hown
      rw [hrow, Option.some.injEq] at hfound
      subst hfound
      refine ⟨row', hrow', ?_⟩
      rcases hagent with hnone | hagent
      · exact .inl hnone
      · rcases hfree with hfree | hfree
        · exact .inl (hagent.symm.trans hfree)
        · exact .inr (hassignee.trans (hfree.symm.trans hagent))
    · exact ⟨found, (hothers own hown).trans hfound, hagent⟩

theorem Current.free {process : ℕ} (current : Current world (process, .proceed clock))
    (hlocal : world.locals process = .claiming id user he)
    (hrow : world.shared.db.emails id = some row) (hopen : row.state.terminal = false) :
    row.assignee = none ∨ row.assignee = some user := by
  dsimp only [Current] at current
  rw [hlocal] at current
  obtain ⟨hread, hsame | hmine⟩ := current row hrow hopen
  · rwa [hsame]
  · exact .inr hmine

theorem sound_turns (desk : Desk) (start : HubDb) :
    World.Sound (fun _ => act desk) Current (Tracks start) fun _ run claim =>
      claim.Holds desk run.db := by
  have hturn : ∀ world process action, Steady desk start world → Current world (process, action) →
      Tracks start (act desk world.shared (world.locals process) action).1 ∧
      (act desk world.shared (world.locals process) action).2.Holds desk
        (act desk world.shared (world.locals process) action).1.db ∧
      ∀ claim : Claim, claim.Holds desk world.shared.db →
        claim.Holds desk (act desk world.shared (world.locals process) action).1.db := by
    intro world process action keeps current
    cases action with
    | claim user id =>
      dsimp only [act]
      split
      · exact ⟨keeps.shared, trivial, fun _ holds => holds⟩
      · rename_i he hfound
        obtain ⟨hmember, hrow⟩ := getObject_some hfound
        exact ⟨keeps.shared, ⟨hmember, he, hrow, .inr rfl⟩, fun _ holds => holds⟩
    | proceed clock =>
      have holds := keeps.locals process
      cases hlocal : world.locals process with
      | idle => exact ⟨keeps.shared, trivial, fun _ holds => holds⟩
      | claiming id user he =>
        rw [hlocal] at holds
        obtain ⟨hmember, row, hrow, -⟩ := holds
        dsimp only [act]
        cases hclaim : claimEmail desk clock id user world.shared.db with
        | error message =>
          refine ⟨fun own started hstart hheld => ?_, trivial, fun _ holds => holds⟩
          obtain ⟨found, hfound, tracked⟩ := keeps.shared own started hstart hheld
          refine ⟨found, hfound, tracked.snoc fun hown => ?_⟩
          -- a tracked email would have been granted
          obtain rfl : id = own := hown
          obtain ⟨db', hok⟩ := claimEmail_isOk hmember hfound tracked.isOpen
          rw [hclaim] at hok
          cases hok
        | ok db' =>
          obtain ⟨stored, hstored, hopen, hafter, hothers⟩ := claimEmail_cases hclaim
          have hfree := current.free hlocal hstored hopen
          refine ⟨fun own started hstart hheld => ?_, trivial, fun claim holds =>
            holds.follows hstored hafter hothers rfl hfree⟩
          obtain ⟨found, hfound, tracked⟩ := keeps.shared own started hstart hheld
          by_cases hown : own = id
          · subst hown
            rw [hstored, Option.some.injEq] at hfound
            subst hfound
            exact ⟨_, hafter, tracked.claimed hfree rfl (terminal_reassign hopen)⟩
          · exact ⟨found, (hothers own hown).trans hfound, tracked.snoc (Ne.symm hown)⟩
    | assign req id user reason requireOnline =>
      dsimp only [act]
      cases hassign : assignTo desk.toHub req id user reason requireOnline world.shared.db with
      | none => exact ⟨keeps.shared, keeps.locals process, fun _ holds => holds⟩
      | some db' =>
        obtain ⟨stored, hstored, hheld, hafter, hothers⟩ := assignTo_cases hassign
        have hnobody := (HubEmail.held_iff.mp hheld).1
        have hfollows : ∀ claim : Claim, claim.Holds desk world.shared.db →
            claim.Holds desk db' := fun claim holds =>
          holds.follows hstored hafter hothers rfl (.inl hnobody)
        refine ⟨fun own started hstart hstarted => ?_, hfollows _ (keeps.locals process),
          hfollows⟩
        obtain ⟨found, hfound, tracked⟩ := keeps.shared own started hstart hstarted
        by_cases hown : own = id
        · subst hown
          rw [hstored, Option.some.injEq] at hfound
          subst hfound
          obtain ⟨-, hnone⟩ | ⟨agent, hagent, -⟩ := tracked
          · exact ⟨_, hafter, .inr ⟨user, rfl, rfl, fun verdict hmem hid =>
              absurd hid (hnone verdict hmem)⟩⟩
          · rw [hnobody] at hagent
            cases hagent
        · exact ⟨found, (hothers own hown).trans hfound, tracked⟩
  refine ⟨fun world process action keeps current => ?_,
    fun world process action other keeps current _ => ?_⟩
  · obtain ⟨htracks, hown, -⟩ := hturn world process action keeps current
    exact ⟨htracks, hown⟩
  · exact (hturn world process action keeps current).2.2 _ (keeps.locals other)

theorem not_takes_iff (keeps : Steady desk start world) (event : ℕ × Action) :
    ¬ Takes desk world event ↔ Current world event := by
  obtain ⟨process, action⟩ := event
  cases action with
  | claim user id => exact ⟨fun _ => trivial, fun _ takes => takes⟩
  | assign => exact ⟨fun _ => trivial, fun _ takes => takes⟩
  | proceed clock =>
    have holds := keeps.locals process
    cases hlocal : world.locals process with
    | idle => simp only [Takes, Current, hlocal, not_false_eq_true]
    | claiming id user he =>
      rw [hlocal] at holds
      obtain ⟨hmember, row, hrow, hagent⟩ := holds
      constructor
      · intro kept
        simp only [Takes, hlocal] at kept
        simp only [Current, hlocal]
        intro stored hstored hopen
        obtain ⟨db', hok⟩ := claimEmail_isOk hmember hstored hopen
        rw [hrow, Option.some.injEq] at hstored
        subst hstored
        have hfree : row.assignee = none ∨ row.assignee = some user := by
          cases hassignee : row.assignee with
          | none => exact .inl rfl
          | some other =>
            by_cases hother : other = user
            · exact .inr (congrArg some hother)
            · exact absurd ⟨row, other, db', hrow, hassignee, hother, hok⟩ kept
        rcases hagent with hnone | hsame
        · exact ⟨.inl hnone, hfree.imp_left fun hfree => hfree.trans hnone.symm⟩
        · exact ⟨hsame ▸ hfree, .inl hsame⟩
      · intro current takes
        simp only [Takes, hlocal] at takes
        obtain ⟨stored, other, db', hstored, hassignee, hother, hok⟩ := takes
        obtain ⟨found, hfound, hopen, -⟩ := claimEmail_cases hok
        rw [hstored, Option.some.injEq] at hfound
        subst hfound
        rcases current.free hlocal hstored hopen with hfree | hfree
        · rw [hassignee] at hfree
          cases hfree
        · rw [hassignee, Option.some.injEq] at hfree
          exact hother hfree

end Laws

/--
No claim takes an email from the agent who has it, and one agent is granted an email that was held,
if and only if every claim finds the email with the agent whom it has read, itself or nobody.
-/
theorem exclusive_claims_iff (desk : Desk) (db : HubDb) (events : List (ℕ × Action)) :
    Always (turn desk) (fun world => OneClaimant db world.shared) (quiet db) events ∧
        Every (turn desk) (fun world event => ¬ Takes desk world event) (quiet db) events ↔
      Every (turn desk) Current (quiet db) events := by
  have hstep : ∀ world event, Steady desk db world → Current world event →
      Steady desk db (turn desk world event) := fun _ _ => (sound_turns desk db).turn
  refine always_and_every_iff (fun _ keeps => keeps.shared.oneClaimant) hstep ?_ (tracks_quiet db)
    events
  intro world event keeps
  refine ⟨fun sound => (not_takes_iff keeps event).mp sound.2, fun current => ?_⟩
  exact ⟨(hstep world event keeps current).shared.oneClaimant,
    (not_takes_iff keeps event).mpr current⟩

/-- Two agents, and no departments. -/
def openDesk : Desk where
  workspace := .seeded
  level _ := 30

/-- An email that nobody has. -/
def heldEmail : HubDb := ({} : HubDb).insertEmail 0 {}

/-- Two agents read the email before either takes it. -/
theorem both_claims_granted :
    ¬ (Always (turn openDesk) (fun world => OneClaimant heldEmail world.shared) (quiet heldEmail)
          [ (0, .claim 1 0), (1, .claim 2 0), (0, .proceed ⟨0, 0, 0, 0⟩),
            (1, .proceed ⟨1, 1, 1, 1⟩) ] ∧
        Every (turn openDesk) (fun world event => ¬ Takes openDesk world event) (quiet heldEmail)
          [ (0, .claim 1 0), (1, .claim 2 0), (0, .proceed ⟨0, 0, 0, 0⟩),
            (1, .proceed ⟨1, 1, 1, 1⟩) ]) := by
  rintro ⟨always, -⟩
  have hone := (always.finish 0 {} rfl rfl).1
  exact absurd (hone ⟨0, 1, true⟩ (by decide +kernel) ⟨0, 2, true⟩ (by decide +kernel) rfl rfl rfl rfl)
    (by decide)

end Kanzan.Inbox.Claims

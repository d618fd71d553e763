import Kanzan.Inbox.ServiceLaws

/-!
# The state of an email and its assignee

Which sequences of operations keep new emails without an assignee, and assigned emails with
one.  Every operation but a transition writes the two columns together, or a state that says
nothing about the assignee.
-/

namespace Kanzan.Inbox

open Sla Support Agents Tickets

/-! ## Properties of the two columns -/

/-- A property of the state and the assignee that emails have when they are parked, given to
somebody, or moved to a state that is neither new nor assigned. -/
structure Stable (P : HubEmail → Prop) : Prop where
  congr : ∀ {he he' : HubEmail}, he'.state = he.state → he'.assignee = he.assignee → P he → P he'
  parked : ∀ {he : HubEmail}, he.state = .new → he.assignee = none → P he
  given : ∀ {he : HubEmail} {user : ℕ}, he.state ≠ .new → he.assignee = some user → P he
  moved : ∀ {he : HubEmail}, he.state ≠ .new → he.state ≠ .assigned → P he

def RowIs (P : HubEmail → Prop) (id : ℕ) (db : HubDb) : Prop :=
  ∀ row, db.emails id = some row → P row

def Lands (P : HubEmail → Prop) (id : ℕ) (db : HubDb) (event : HubEvent) : Prop :=
  ∀ newState row, event.op = .transition id newState → db.emails id = some row →
    canTransition row.state newState = true →
      ∀ row' : HubEmail, row'.state = newState → row'.assignee = row.assignee → P row'

section Operations

variable {hub : Hub} {req : Request} {P : HubEmail → Prop} {id own : ℕ} {db db' : HubDb}
  {s s' : HubSession}

theorem RowIs.of_emails (rowIs : RowIs P id db) (hsame : db'.emails = db.emails) :
    RowIs P id db' := by
  intro row hrow
  rw [hsame] at hrow
  exact rowIs row hrow

theorem RowIs.updateEmail (rowIs : RowIs P id db) {between : HubDb}
    (hsame : between.emails = db.emails) (write : HubEmail → HubEmail)
    (hwrite : ∀ row, own = id → db.emails id = some row → P row → P (write row)) :
    RowIs P id (between.updateEmail own write) := by
  intro row' hrow'
  by_cases hown : own = id
  · subst hown
    cases hrow : db.emails own with
    | none => simp [HubDb.updateEmail, hsame, hrow] at hrow'
    | some row =>
      rw [HubDb.updateEmail_of_row _ _ _ (hsame ▸ hrow), Option.some.injEq] at hrow'
      rw [← hrow']
      exact hwrite row rfl hrow (rowIs row hrow)
  · rw [HubDb.updateEmail_of_ne _ _ _ (Ne.symm hown), hsame] at hrow'
    exact rowIs row' hrow'

theorem RowIs.onEmail (rowIs : RowIs P id db) {work : HubSession → Except String HubSession}
    (hwork : ∀ he s, db.emails own = some he →
      work { db, id := own, hubEmail := he } = .ok s → RowIs P id s.db) :
    RowIs P id (db.onEmail own work) := by
  unfold HubDb.onEmail
  cases hemail : db.emails own with
  | none => exact rowIs
  | some he =>
    dsimp only
    cases hdone : work { db, id := own, hubEmail := he } with
    | error message => exact rowIs
    | ok s => exact hwork he s hemail hdone

variable (stable : Stable P)

include stable

theorem RowIs.save (rowIs : RowIs P id s.db) (write : HubEmail → HubEmail)
    (hwrite : ∀ row, (write row).state = row.state ∧ (write row).assignee = row.assignee) :
    RowIs P id (s.save write).db :=
  rowIs.updateEmail rfl write fun row _ _ => stable.congr (hwrite row).1 (hwrite row).2

theorem RowIs.assigns (rowIs : RowIs P id db) (assigns : Assigns hub req db db') :
    RowIs P id db' := by
  induction assigns with
  | refl => exact rowIs
  | @step between after _ own user reason requireOnline hassigned ih =>
    obtain ⟨-, -, rfl⟩ := assignTo_eq_some.mp hassigned
    have hwritten : RowIs P id (between.updateEmail own (.assign req.clock user)) := by
      refine ih.updateEmail rfl _ fun row _ _ _ => ?_
      have hnew : (row.assign req.clock user).state ≠ .new := nofun
      exact stable.given hnew rfl
    exact hwritten.of_emails (commitAssignment_emails reason)

theorem RowIs.insertEmail (rowIs : RowIs P id db) {he : HubEmail} (hstate : he.state = .new)
    (hnone : he.assignee = none) : RowIs P id (db.insertEmail own he) := by
  intro row hrow
  by_cases hown : id = own
  · subst hown
    simp only [HubDb.insertEmail, Function.update_self, Option.some.injEq] at hrow
    rw [← hrow]
    exact stable.parked hstate hnone
  · simp only [HubDb.insertEmail, Function.update_of_ne hown] at hrow
    exact rowIs row hrow

theorem RowIs.postParkHooks (rowIs : RowIs P id s.db) (decision : RoutingDecision) :
    RowIs P id (postParkHooks hub req decision s) := by
  have hrouted := rowIs.save stable (applyRouting req decision) fun _ => ⟨rfl, rfl⟩
  have hseeded : RowIs P id (initializeHubSla hub req (s.save (applyRouting req decision))).db := by
    unfold initializeHubSla
    split
    · exact hrouted
    · exact hrouted.save stable _ fun _ => ⟨rfl, rfl⟩
  unfold Inbox.postParkHooks
  dsimp only
  split
  · exact hseeded.assigns stable (tryAssign_assigns ..)
  · exact hseeded

theorem RowIs.parkAndAssign (rowIs : RowIs P id db) (decision : RoutingDecision) :
    RowIs P id (parkAndAssign hub req own decision db) := by
  unfold Inbox.parkAndAssign parkEmailInHub
  split
  · exact rowIs
  · refine (rowIs.insertEmail stable rfl rfl).onEmail fun he s _ hs => ?_
    obtain rfl := Except.ok.inj hs
    exact (rowIs.insertEmail stable rfl rfl).postParkHooks stable decision

theorem RowIs.escalate (rowIs : RowIs P id s.db) : RowIs P id (escalateHubEmail req s).db := by
  unfold escalateHubEmail
  split
  · exact rowIs.updateEmail rfl _ fun row _ _ _ => stable.moved nofun nofun
  · exact rowIs

theorem RowIs.sweep (rowIs : RowIs P id s.db) (now : Instant) :
    RowIs P id (checkHubSlaBreaches hub req now s).db := by
  have hflagged : RowIs P id (flagResponse now s).db :=
    rowIs.updateEmail rfl _ fun row _ _ => stable.congr rfl rfl
  have hwarned : RowIs P id (markWarning now s).db :=
    rowIs.updateEmail rfl _ fun row _ _ => stable.congr rfl rfl
  have hresolution : ∀ {s : HubSession}, RowIs P id s.db →
      RowIs P id (if s.hubEmail.resolutionOverdue now then flagResolution now s else s).db := by
    intro s rowIs
    split
    · exact rowIs.updateEmail rfl _ fun row _ _ => stable.congr rfl rfl
    · exact rowIs
  apply hresolution
  split
  · exact hflagged.escalate stable
  split
  · exact hwarned
  · exact rowIs

theorem RowIs.reassign (rowIs : RowIs P id db) {newUser : ℕ} {note : String}
    (success : reassignHubEmail hub req own newUser note db = .ok db') : RowIs P id db' := by
  obtain ⟨he, row, -, -, rfl⟩ := reassignHubEmail_cases success
  have hwritten : RowIs P id (db.updateEmail own (.reassign req newUser)) := by
    refine rowIs.updateEmail rfl _ fun row _ _ _ => ?_
    have hnew : (row.reassign req newUser).state ≠ .new := by
      simp only [HubEmail.reassign]
      split
      · nofun
      · assumption
    exact stable.given hnew rfl
  exact hwritten.of_emails (moveLoad_emails ..)

theorem RowIs.dismiss (rowIs : RowIs P id s.db) {reason : String}
    (success : dismissHubEmail req reason s = .ok s') : RowIs P id s'.db := by
  obtain ⟨he, -, -, ⟨-, hsame⟩ | ⟨-, hsaved⟩⟩ := dismissHubEmail_cases success
  · rwa [hsame]
  · rw [hsaved]
    exact rowIs.updateEmail rfl _ fun row _ _ _ => stable.moved nofun nofun

theorem RowIs.convert (rowIs : RowIs P id s.db) {creator ticket : ℕ} {overrides : NewTicket}
    (success : convertToTicket hub req creator overrides s = .ok (ticket, s')) :
    RowIs P id s'.db := by
  obtain ⟨he, -, -, ⟨-, hsame⟩ | ⟨-, -, db, hcreate, hsaved⟩⟩ := convertToTicket_cases success
  · rwa [hsame]
  · rw [hsaved]
    exact rowIs.updateEmail (createHubTicket_cases hcreate).2.emails _ fun row _ _ _ =>
      stable.moved nofun nofun

/-- An operation keeps the property, as long as transitions lead to rows with it. -/
theorem RowIs.step {event : HubEvent} (rowIs : RowIs P id db) (lands : Lands P id db event) :
    RowIs P id (hubStep hub db event) := by
  obtain ⟨op, req⟩ := event
  cases op with
  | park own decision => exact rowIs.parkAndAssign stable decision
  | tryAssign own =>
    refine rowIs.onEmail fun he s _ hs => ?_
    obtain rfl := Except.ok.inj hs
    exact rowIs.assigns stable (tryAssign_assigns ..)
  | assignTo own user reason requireOnline =>
    exact rowIs.assigns stable ((Assigns.refl db).getD own user reason requireOnline)
  | drain user => exact rowIs.assigns stable (drain_assigns hub req user db)
  | reassign own newUser note =>
    cases hreassigned : reassignHubEmail hub req own newUser note db with
    | error message => simpa [hubStep, applyHubOp, hreassigned, Except.toOption] using rowIs
    | ok after =>
      simpa [hubStep, applyHubOp, hreassigned, Except.toOption] using
        rowIs.reassign stable hreassigned
  | transition own newState =>
    refine rowIs.onEmail fun he s hemail hs => ?_
    obtain ⟨hallowed, responds, rfl⟩ := transitionHubEmail_cases hs
    refine rowIs.updateEmail rfl _ fun row hown hrow _ => ?_
    subst hown
    rw [hemail, Option.some.injEq] at hrow
    subst hrow
    exact lands newState he rfl hemail hallowed _ rfl rfl
  | escalate own =>
    refine rowIs.onEmail fun he s _ hs => ?_
    obtain rfl := Except.ok.inj hs
    exact RowIs.escalate stable rowIs
  | sweep own =>
    refine rowIs.onEmail fun he s _ hs => ?_
    obtain rfl := Except.ok.inj hs
    split
    · exact RowIs.sweep stable rowIs _
    · exact rowIs
  | dismiss own reason => exact rowIs.onEmail fun he s _ hs => RowIs.dismiss stable rowIs hs
  | convert own creator overrides =>
    refine rowIs.onEmail fun he s _ hs => ?_
    obtain ⟨⟨ticket, t⟩, hconverted, rfl⟩ := map_eq_ok.mp hs
    exact RowIs.convert stable rowIs hconverted
  | autoAssignTicket ticket => exact rowIs.of_emails autoAssignTicket_emails
  | updateTicketCount user => exact rowIs.of_emails updateTicketCount_emails

end Operations

/-! ## Runs -/

def noEmails (db : HubDb) : HubDb := { db with emails := fun _ => none, emailIds := [] }

def NotTakenBack (id : ℕ) (db : HubDb) (event : HubEvent) : Prop :=
  event.op = .transition id .new → db.state id ≠ some .assigned

/-- A transition makes the email an assigned one only if somebody has it. -/
def HasAssignee (id : ℕ) (db : HubDb) (event : HubEvent) : Prop :=
  event.op = .transition id .assigned → ∀ row ∈ db.emails id,
    canTransition row.state .assigned = true → row.assignee ≠ none

instance (id : ℕ) (db : HubDb) (event : HubEvent) : Decidable (NotTakenBack id db event) :=
  inferInstanceAs (Decidable (_ → _))

instance (id : ℕ) (db : HubDb) (event : HubEvent) : Decidable (HasAssignee id db event) :=
  inferInstanceAs (Decidable (_ → ∀ row ∈ db.emails id, _))

def NewUnassigned (he : HubEmail) : Prop := he.state = .new → he.assignee = none

def AssignedToSomebody (he : HubEmail) : Prop := he.state = .assigned → he.assignee ≠ none

theorem newUnassigned_stable : Stable NewUnassigned where
  congr hstate hassignee holds hnew := hassignee.trans (holds (hstate ▸ hnew))
  parked _ hnone _ := hnone
  given hstate _ hnew := absurd hnew hstate
  moved hstate _ hnew := absurd hnew hstate

theorem assignedToSomebody_stable : Stable AssignedToSomebody where
  congr hstate hassignee holds hassigned := hassignee ▸ holds (hstate ▸ hassigned)
  parked hnew _ hassigned := absurd (hnew.symm.trans hassigned) nofun
  given _ hsome _ := hsome ▸ Option.some_ne_none _
  moved _ hstate hassigned := absurd hassigned hstate

section Runs

variable (hub : Hub) (db : HubDb) (id : ℕ)

theorem rowIs_run {P : HubEmail → Prop} (stable : Stable P) {events : List HubEvent}
    (lands : Every (hubStep hub) (Lands P id) (noEmails db) events) :
    RowIs P id (run (hubStep hub) (noEmails db) events) :=
  run_invariant (RowIs P id) (fun _ _ rowIs => rowIs.step stable) (fun _ hrow => absurd hrow (Option.some_ne_none _).symm)
    events lands

/--
After any sequence of operations a new email has no assignee, if no transition has taken it
back from one, and an assigned email has one, if transitions have only made it assigned while
it had one.
-/
theorem state_in_step_with_assignee (events : List HubEvent) :
    (Every (hubStep hub) (NotTakenBack id) (noEmails db) events →
        RowIs NewUnassigned id (run (hubStep hub) (noEmails db) events)) ∧
      (Every (hubStep hub) (HasAssignee id) (noEmails db) events →
        RowIs AssignedToSomebody id (run (hubStep hub) (noEmails db) events)) := by
  constructor
  · intro kept
    refine rowIs_run hub db id newUnassigned_stable (kept.mono fun db event notTaken => ?_)
    rintro newState row hop hrow hallowed row' hstate - hnew
    obtain rfl : newState = .new := hstate.symm.trans hnew
    exact absurd (by rw [HubDb.state, hrow, Option.map_some, canTransition_new hallowed])
      (notTaken hop)
  · intro kept
    refine rowIs_run hub db id assignedToSomebody_stable (kept.mono fun db event hasAssignee => ?_)
    rintro newState row hop hrow hallowed row' hstate hsame hassigned
    obtain rfl : newState = .assigned := hstate.symm.trans hassigned
    exact hsame ▸ hasAssignee hop row hrow hallowed

end Runs

/-- An email that is claimed, worked on, escalated, and taken up again. -/
def takenUpAgain : List HubEvent :=
  let req : Request := { clock := ⟨0, 0, 0, 0⟩ }
  [⟨.park 0 {}, req⟩, ⟨.reassign 0 1 "Claimed", req⟩, ⟨.transition 0 .inProgress, req⟩,
    ⟨.escalate 0, req⟩, ⟨.transition 0 .assigned, req⟩]

/-- Its only transition to the assigned state finds its assignee. -/
theorem state_in_step_when_taken_up_again :
    RowIs NewUnassigned 0
        (run (hubStep { workspace := .seeded }) (noEmails {}) takenUpAgain) ∧
      RowIs AssignedToSomebody 0
        (run (hubStep { workspace := .seeded }) (noEmails {}) takenUpAgain) := by
  obtain ⟨hnew, hassigned⟩ :=
    state_in_step_with_assignee { workspace := .seeded } {} 0 takenUpAgain
  exact ⟨hnew (by decide), hassigned (by decide)⟩

/-- A new email that nobody has may be called assigned. -/
def assignedToNobody : List HubEvent :=
  let req : Request := { clock := ⟨0, 0, 0, 0⟩ }
  [⟨.park 0 {}, req⟩, ⟨.transition 0 .assigned, req⟩]

theorem state_out_of_step :
    ¬ RowIs (fun he => NewUnassigned he ∧ AssignedToSomebody he) 0
      (run (hubStep { workspace := .seeded }) (noEmails {}) assignedToNobody) :=
  fun rowIs => (rowIs _ rfl).2 rfl rfl

end Kanzan.Inbox

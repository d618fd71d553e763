import Kanzan.Inbox.ServiceLaws
import Kanzan.Support.Processes

/-!
# The lifecycle under interleavings

What one turn can do to the row of an email, and when every change of a stored state follows
the table of transitions.
-/

namespace Kanzan.Inbox

open Sla Support Agents Tickets

/-!
## Interleavings of hub services

Any number of processes, each with the instance of an email that it loaded at some time.  A
service that locks the row is one turn, and so is a single write of a service that does not;
a sweep of the deadlines takes a turn for each of its writes.
-/

/-! ### The processes -/

/-- A conversion that has succeeded, and whether its ticket is new. -/
structure Conversion where
  hubEmail : ℕ
  ticket : ℕ
  created : Bool
  deriving DecidableEq, Repr

/-- The store, and the history of conversions. -/
structure HubRun where
  db : HubDb := {}
  conversions : List Conversion := []

/-- The services that a process calls on its instance. -/
inductive Service where
  | route (decision : RoutingDecision)
  | initializeSla
  /-- For the engine, which has chosen the user at any time before. -/
  | assignTo (user : ℕ) (reason : AssignmentReason) (requireOnline : Bool)
  | reassign (newUser : ℕ) (note : String)
  | transition (newState : State)
  | escalate
  | dismiss (reason : String)
  | convert (creator : ℕ) (overrides : NewTicket)

/-- What the sweep does next with an email. -/
inductive SweepStep where
  | response
  | escalation
  | resolution
  deriving DecidableEq, Repr

/-- What a process is doing: nothing, holding an instance, or sweeping one. -/
inductive Errand where
  | idle
  | holding (id : ℕ) (he : HubEmail)
  | sweeping (now : Instant) (step : SweepStep) (id : ℕ) (he : HubEmail)

inductive Action where
  /-- A new email is parked. -/
  | park (req : Request) (id : ℕ)
  | load (id : ℕ)
  | call (req : Request) (service : Service)
  /-- A sweep that began at a time loads an email. -/
  | sweep (now : Instant) (id : ℕ)
  | proceed (req : Request)

section Turns

variable (hub : Hub)

def callService (req : Request) (s : HubSession) :
    Service → Except String (HubSession × List Conversion)
  | .route decision => .ok (s.save (applyRouting req decision), [])
  | .initializeSla => .ok (initializeHubSla hub req s, [])
  | .assignTo user reason requireOnline =>
    .ok ({ s with db := (assignTo hub req s.id user reason requireOnline s.db).getD s.db }, [])
  | .reassign newUser note =>
    (reassignHubEmail hub req s.id newUser note s.db).map fun db => ({ s with db }, [])
  | .transition newState => (transitionHubEmail req newState s).map fun s => (s, [])
  | .escalate => .ok (escalateHubEmail req s, [])
  | .dismiss reason => (dismissHubEmail req reason s).map fun s => (s, [])
  | .convert creator overrides =>
    (convertToTicket hub req creator overrides s).map fun result =>
      (result.2, [{ hubEmail := s.id, ticket := result.1
                    created := (s.db.tickets.tickets result.1).isNone }])

def sweepOn (req : Request) (now : Instant) (s : HubSession) :
    SweepStep → HubSession × Option SweepStep
  | .response =>
    if s.hubEmail.responseOverdue now then (flagResponse now s, some .escalation)
    else if s.hubEmail.responseNear hub now then (markWarning now s, some .resolution)
    else (s, some .resolution)
  | .escalation => (escalateHubEmail req s, some .resolution)
  | .resolution => (if s.hubEmail.resolutionOverdue now then flagResolution now s else s, none)

def act (run : HubRun) (errand : Errand) : Action → HubRun × Errand
  | .park req id => ({ run with db := parkEmailInHub req id run.db }, errand)
  | .load id =>
    match run.db.emails id with
    | none => (run, .idle)
    | some he => (run, .holding id he)
  | .call req service =>
    match errand with
    | .holding id he =>
      match callService hub req { db := run.db, id, hubEmail := he } service with
      | .error _ => (run, .idle)
      | .ok (s, conversions) =>
        ({ db := s.db, conversions := run.conversions ++ conversions },
          .holding id s.hubEmail)
    | _ => (run, errand)
  | .sweep now id =>
    match (run.db.emails id).filter HubEmail.sweeps with
    | none => (run, .idle)
    | some he => (run, .sweeping now .response id he)
  | .proceed req =>
    match errand with
    | .sweeping now step id he =>
      let (s, next) := sweepOn hub req now { db := run.db, id, hubEmail := he } step
      ({ run with db := s.db },
        match next with
        | none => .idle
        | some step => .sweeping now step id s.hubEmail)
    | _ => (run, errand)

abbrev turn : World HubRun Errand → ℕ × Action → World HubRun Errand :=
  World.turn fun _ => act hub

end Turns

/-! ## Changes of a row -/

/-- How a service that looks at the row changes it, which may be a conversion. -/
inductive Checked (converting : Bool) (row row' : HubEmail) : Prop
  | kept (state : row'.state = row.state)
      (ticket : row'.convertedTicket = row.convertedTicket)
  | moved (allowed : canTransition row.state row'.state = true)
      (ticket : row'.convertedTicket = row.convertedTicket)
  | converted (conversion : converting = true) (allowed : row.state = .convertedToTicket ∨
        canTransition row.state .convertedToTicket = true)
      (state : row'.state = .convertedToTicket)

/-- How a service changes a row when it writes a state on the word of its instance, or none. -/
def Change (converting : Bool) : Option State → HubEmail → HubEmail → Prop
  | none, row, row' => Checked converting row row'
  | some newState, row, row' =>
    row'.state = newState ∧ row'.convertedTicket = row.convertedTicket

/-- A service has touched no other email than its own, and that one in a certain way. -/
structure Touches (id : ℕ) (change : HubEmail → HubEmail → Prop) (db db' : HubDb) : Prop where
  others : ∀ other ≠ id, db'.emails other = db.emails other
  absent : db.emails id = none → db'.emails id = none
  row : ∀ row, db.emails id = some row → ∃ row', db'.emails id = some row' ∧ change row row'

def uncheckedState (he : HubEmail) : Service → Option State
  | .transition newState => if canTransition he.state newState then some newState else none
  | .escalate => if canTransition he.state .escalated then some .escalated else none
  | _ => none

def Service.converts : Service → Bool
  | .convert .. => true
  | _ => false

def Action.converts : Action → Bool
  | .call _ service => service.converts
  | _ => false

def uncheckedStep (he : HubEmail) : SweepStep → Option State
  | .escalation => uncheckedState he .escalate
  | _ => none

/-- The state that a turn writes into the row of an email without a look at it. -/
def unchecked (id : ℕ) (errand : Errand) : Action → Option State
  | .call _ service =>
    match errand with
    | .holding own he => if own = id then uncheckedState he service else none
    | _ => none
  | .proceed _ =>
    match errand with
    | .sweeping _ step own he => if own = id then uncheckedStep he step else none
    | _ => none
  | _ => none

theorem Checked.refl (converting : Bool) (row : HubEmail) : Checked converting row row :=
  .kept rfl rfl

variable {write : HubEmail → HubEmail} {service : Service} {row : HubEmail}

section Services

variable {hub : Hub} {req : Request} {id : ℕ} {db db' : HubDb} {s s' : HubSession}
  {change : HubEmail → HubEmail → Prop} {converting : Bool}

theorem Touches.of_emails (hsame : db'.emails = db.emails) :
    Touches id (Checked converting) db db' where
  others _ _ := congrFun hsame _
  absent habsent := (congrFun hsame id).trans habsent
  row row hrow := ⟨row, (congrFun hsame id).trans hrow, .refl converting row⟩

theorem Touches.of_update (hemails : db'.emails = (db.updateEmail id write).emails)
    (hchange : ∀ row, db.emails id = some row → change row (write row)) :
    Touches id change db db' where
  others other hother := by rw [hemails, HubDb.updateEmail_of_ne _ _ _ hother]
  absent habsent := by simp [hemails, HubDb.updateEmail, habsent]
  row row hrow :=
    ⟨write row, by rw [hemails, HubDb.updateEmail_of_row _ _ _ hrow], hchange row hrow⟩

theorem Touches.of_updateEmail {between : HubDb} (hsame : between.emails = db.emails)
    (write : HubEmail → HubEmail)
    (hchange : ∀ row, db.emails id = some row → change row (write row)) :
    Touches id change db (between.updateEmail id write) := by
  refine .of_update ?_ hchange
  rw [HubDb.updateEmail, hsame]
  rfl

theorem Touches.of_save
    (hkept : ∀ row, (write row).state = row.state ∧
      (write row).convertedTicket = row.convertedTicket) :
    Touches s.id (Checked converting) s.db (s.save write).db :=
  .of_update rfl fun row _ => .kept (hkept row).1 (hkept row).2

theorem assignTo_touches {user : ℕ} {reason : AssignmentReason} {requireOnline : Bool} :
    Touches id (Checked converting) db ((assignTo hub req id user reason requireOnline db).getD db) := by
  cases hassigned : assignTo hub req id user reason requireOnline db with
  | none => exact .of_emails rfl
  | some after =>
    obtain ⟨⟨he, hemail, hheld⟩, -, rfl⟩ := assignTo_eq_some.mp hassigned
    refine .of_update (commitAssignment_emails reason) fun row hrow => ?_
    rw [hemail, Option.some.injEq] at hrow
    subst hrow
    exact .moved (by rw [(HubEmail.held_iff.mp hheld).2]; rfl) rfl

theorem reassign_touches {newUser : ℕ} {note : String}
    (success : reassignHubEmail hub req id newUser note db = .ok db') :
    Touches id (Checked converting) db db' := by
  obtain ⟨he, row, hemail, -, rfl⟩ := reassignHubEmail_cases success
  refine .of_update (moveLoad_emails ..) fun stored hstored => ?_
  by_cases hnew : stored.state = .new
  · refine .moved ?_ rfl
    simp only [HubEmail.reassign, hnew, if_true]
    rfl
  · exact .kept (if_neg hnew) rfl

theorem transition_touches {newState : State} (success : transitionHubEmail req newState s = .ok s') :
    Touches s.id (Change converting (uncheckedState s.hubEmail (.transition newState)))
      s.db s'.db := by
  obtain ⟨hallowed, responds, rfl⟩ := transitionHubEmail_cases success
  rw [uncheckedState, if_pos hallowed]
  exact .of_update rfl fun _ _ => ⟨rfl, rfl⟩

theorem escalate_touches :
    Touches s.id (Change converting (uncheckedState s.hubEmail .escalate))
      s.db (escalateHubEmail req s).db := by
  simp only [escalateHubEmail, uncheckedState]
  split
  · exact .of_update rfl fun _ _ => ⟨rfl, rfl⟩
  · exact .of_emails rfl

theorem dismiss_touches {reason : String} (success : dismissHubEmail req reason s = .ok s') :
    Touches s.id (Checked converting) s.db s'.db := by
  obtain ⟨he, hemail, -, ⟨-, hsame⟩ | ⟨hallowed, hsaved⟩⟩ := dismissHubEmail_cases success
  · rw [hsame]
    exact .of_emails rfl
  · rw [hsaved]
    refine .of_update rfl fun row hrow => ?_
    rw [hemail, Option.some.injEq] at hrow
    subst hrow
    exact .moved hallowed rfl

theorem convert_touches {creator ticket : ℕ} {overrides : NewTicket}
    (success : convertToTicket hub req creator overrides s = .ok (ticket, s')) :
    Touches s.id (Checked true) s.db s'.db := by
  obtain ⟨he, hemail, -, ⟨-, hsame⟩ | ⟨-, hallowed, db, hcreate, hsaved⟩⟩ :=
    convertToTicket_cases success
  · rw [hsame]
    exact .of_emails rfl
  · obtain ⟨-, creates⟩ := createHubTicket_cases hcreate
    rw [hsaved]
    refine .of_updateEmail creates.emails _ fun row hrow => ?_
    rw [hemail, Option.some.injEq] at hrow
    subst hrow
    exact .converted rfl hallowed rfl

theorem callService_touches {conversions : List Conversion}
    (success : callService hub req s service = .ok (s', conversions)) :
    Touches s.id (Change service.converts (uncheckedState s.hubEmail service)) s.db s'.db := by
  cases service with
  | route decision =>
    obtain ⟨rfl, -⟩ := Prod.mk.inj (Except.ok.inj success)
    exact .of_save fun _ => ⟨rfl, rfl⟩
  | initializeSla =>
    obtain ⟨rfl, -⟩ := Prod.mk.inj (Except.ok.inj success)
    unfold initializeHubSla
    split
    · exact .of_emails rfl
    · exact .of_save fun _ => ⟨rfl, rfl⟩
  | assignTo user reason requireOnline =>
    obtain ⟨rfl, -⟩ := Prod.mk.inj (Except.ok.inj success)
    exact assignTo_touches
  | reassign newUser note =>
    obtain ⟨db, hreassigned, hs⟩ := map_eq_ok.mp success
    obtain ⟨rfl, -⟩ := Prod.mk.inj hs
    exact reassign_touches hreassigned
  | transition newState =>
    obtain ⟨t, htransition, hs⟩ := map_eq_ok.mp success
    obtain ⟨rfl, -⟩ := Prod.mk.inj hs
    exact transition_touches htransition
  | escalate =>
    obtain ⟨rfl, -⟩ := Prod.mk.inj (Except.ok.inj success)
    exact escalate_touches
  | dismiss reason =>
    obtain ⟨t, hdismissed, hs⟩ := map_eq_ok.mp success
    obtain ⟨rfl, -⟩ := Prod.mk.inj hs
    exact dismiss_touches hdismissed
  | convert creator overrides =>
    obtain ⟨⟨ticket, t⟩, hconverted, hs⟩ := map_eq_ok.mp success
    obtain ⟨rfl, -⟩ := Prod.mk.inj hs
    exact convert_touches hconverted

theorem uncheckedState_of_error {message : String}
    (failure : callService hub req s service = .error message) :
    uncheckedState s.hubEmail service = none := by
  cases service with
  | transition newState =>
    have hforbidden : canTransition s.hubEmail.state newState ≠ true := by
      intro hallowed
      simp [callService, transitionHubEmail, assertTransition, hallowed, Except.map] at failure
    exact if_neg hforbidden
  | escalate => cases failure
  | _ => rfl

theorem sweepOn_touches (now : Instant) (step : SweepStep) :
    Touches s.id (Change converting (uncheckedStep s.hubEmail step)) s.db
      (sweepOn hub req now s step).1.db := by
  cases step with
  | response =>
    change Touches s.id (Checked converting) s.db _
    simp only [sweepOn]
    split
    · exact Touches.of_save fun _ => ⟨rfl, rfl⟩
    split
    · exact Touches.of_save fun _ => ⟨rfl, rfl⟩
    · exact .of_emails rfl
  | escalation => exact escalate_touches
  | resolution =>
    change Touches s.id (Checked converting) s.db _
    simp only [sweepOn]
    split
    · exact Touches.of_updateEmail rfl _ fun _ _ => .kept rfl rfl
    · exact .of_emails rfl

end Services

/-! ## Turns -/

section Turns

variable {hub : Hub} {id : ℕ} {run : HubRun} {errand : Errand} {converting : Bool}

/-- A turn on the email `own`, seen from another one. -/
theorem Touches.at {own : ℕ} {written : Option State} {db db' : HubDb}
    (touches : Touches own (Change converting written) db db') (hrow : db.emails id = some row) :
    ∃ row', db'.emails id = some row' ∧
      Change converting (if own = id then written else none) row row' := by
  by_cases hown : own = id
  · subst hown
    rw [if_pos rfl]
    exact touches.row row hrow
  · rw [if_neg hown]
    exact ⟨row, (touches.others id (Ne.symm hown)).trans hrow, .refl converting row⟩

variable (hub errand) in
/-- What a turn does to a row that is stored. -/
theorem act_row (action : Action) (hrow : run.db.emails id = some row) :
    ∃ row', (act hub run errand action).1.db.emails id = some row' ∧
      Change action.converts (unchecked id errand action) row row' := by
  have hstay : ∃ row', run.db.emails id = some row' ∧ Change action.converts none row row' :=
    ⟨row, hrow, .refl _ row⟩
  cases action with
  | park req new =>
    refine ⟨row, ?_, Checked.refl _ row⟩
    simp only [act, parkEmailInHub]
    split
    · exact hrow
    · rename_i hfresh
      have hother : id ≠ new := by
        rintro rfl
        simp [hrow] at hfresh
      exact (Function.update_of_ne hother ..).trans hrow
  | load own =>
    simp only [act]
    cases run.db.emails own with
    | none => exact hstay
    | some he => exact hstay
  | call req service =>
    cases errand with
    | holding own he =>
      simp only [act, unchecked]
      cases hcall : callService hub req { db := run.db, id := own, hubEmail := he } service with
      | error message =>
        have hnone : uncheckedState he service = none := uncheckedState_of_error hcall
        rw [hnone, ite_self]
        exact hstay
      | ok result => exact (callService_touches hcall).at hrow
    | idle => exact hstay
    | sweeping now step own he => exact hstay
  | sweep now own =>
    simp only [act]
    cases (run.db.emails own).filter HubEmail.sweeps with
    | none => exact hstay
    | some he => exact hstay
  | proceed req =>
    cases errand with
    | sweeping now step own he => exact (sweepOn_touches now step).at hrow
    | idle => exact hstay
    | holding own he => exact hstay

end Turns

/-! ## Runs -/

/-- Stored states have changed along edges of the table. -/
def FollowsTable (db db' : HubDb) : Prop :=
  ∀ id before after, db.state id = some before → db'.state id = some after →
    after = before ∨ canTransition before after = true

/-- Each turn of a run follows the table, and a terminal state never changes again. -/
structure Lawful (hub : Hub) (world : World HubRun Errand) (events : List (ℕ × Action)) : Prop where
  edges : Every (turn hub)
    (fun world event => FollowsTable world.shared.db (turn hub world event).shared.db) world events
  final : ∀ first rest, events = first ++ rest → ∀ id state,
    (run (turn hub) world first).shared.db.state id = some state → state.terminal = true →
      (run (turn hub) world events).shared.db.state id = some state

/-- A state that is written without a look at the row is one that the row may move to. -/
def Current (world : World HubRun Errand) (event : ℕ × Action) : Prop :=
  ∀ id before after, unchecked id (world.locals event.1) event.2 = some after →
    world.shared.db.state id = some before → after = before ∨ canTransition before after = true

section Runs

variable {hub : Hub}

variable (hub) in
/-- What a turn does to a state that is stored. -/
theorem turn_state (world : World HubRun Errand) (event : ℕ × Action) {id : ℕ} {before : State}
    (hbefore : world.shared.db.state id = some before) :
    ∃ after, (turn hub world event).shared.db.state id = some after ∧
      match unchecked id (world.locals event.1) event.2 with
      | some written => after = written
      | none => after = before ∨ canTransition before after = true := by
  obtain ⟨row, hrow, rfl⟩ := Option.map_eq_some_iff.mp hbefore
  obtain ⟨row', hrow', hchange⟩ :=
    act_row hub (world.locals event.1) event.2 hrow
  refine ⟨row'.state, Option.map_eq_some_iff.mpr ⟨row', hrow', rfl⟩, ?_⟩
  cases hwritten : unchecked id (world.locals event.1) event.2 with
  | some written =>
    rw [hwritten] at hchange
    exact hchange.1
  | none =>
    rw [hwritten] at hchange
    cases hchange with
    | kept state _ => exact .inl state
    | moved allowed _ => exact .inr allowed
    | converted _ allowed state =>
      rcases allowed with hconverted | hallowed
      · exact .inl (state.trans hconverted.symm)
      · exact .inr (state ▸ hallowed)

variable (hub) in
/-- A turn follows the table exactly when what it writes unchecked does. -/
theorem followsTable_iff (world : World HubRun Errand) (event : ℕ × Action) :
    FollowsTable world.shared.db (turn hub world event).shared.db ↔ Current world event := by
  constructor
  · intro follows id before after hwritten hbefore
    obtain ⟨found, hfound, hchange⟩ := turn_state hub world event hbefore
    rw [hwritten] at hchange
    subst hchange
    exact follows id before found hbefore hfound
  · intro current id before after hbefore hafter
    obtain ⟨found, hfound, hchange⟩ := turn_state hub world event hbefore
    rw [hafter, Option.some.injEq] at hfound
    subst hfound
    cases hwritten : unchecked id (world.locals event.1) event.2 with
    | none =>
      rw [hwritten] at hchange
      exact hchange
    | some written =>
      rw [hwritten] at hchange
      subst hchange
      exact current id before after hwritten hbefore

theorem state_of_follows {world : World HubRun Errand} {events : List (ℕ × Action)}
    (follows : Every (turn hub) (fun world event =>
      FollowsTable world.shared.db (turn hub world event).shared.db) world events)
    {id : ℕ} {state : State} (hstate : world.shared.db.state id = some state)
    (hterminal : state.terminal = true) :
    (run (turn hub) world events).shared.db.state id = some state := by
  induction events generalizing world with
  | nil => exact hstate
  | cons event rest ih =>
    obtain ⟨after, hafter, -⟩ := turn_state hub world event hstate
    refine ih follows.2 ?_
    rw [hafter]
    rcases follows.1 id state after hstate hafter with rfl | hallowed
    · rfl
    · rw [canTransition_terminal hterminal] at hallowed
      cases hallowed

/--
However the services interleave, and however old their instances are: every change follows
the table and terminal states stay, exactly if no unchecked write goes against the row.
-/
theorem lifecycle_lawful_iff (hub : Hub) (world : World HubRun Errand)
    (events : List (ℕ × Action)) :
    Lawful hub world events ↔ Every (turn hub) Current world events := by
  constructor
  · intro lawful
    exact lawful.edges.mono fun world event => (followsTable_iff hub world event).mp
  · intro current
    have follows := current.mono fun world event => (followsTable_iff hub world event).mpr
    refine ⟨follows, ?_⟩
    rintro first rest rfl id state hstate hterminal
    rw [run_append]
    exact state_of_follows follows.rest hstate hterminal

end Runs

/-! ## Instances that are too old -/

/-- A new email of an office that has no policies. -/
def newEmail : World HubRun Errand where
  shared := { db := { emails := Function.update (fun _ => none) 0 (some {}), emailIds := [0] } }
  locals _ := .idle

/-- One user dismisses the email while another, who has opened it before, escalates it. -/
def escalatedAfterDismissal : List (ℕ × Action) :=
  let req : Request := { clock := ⟨0, 0, 0, 0⟩ }
  [(0, .load 0), (1, .load 0), (1, .call req (.dismiss "spam")), (0, .call req .escalate)]

/-- The dismissed email is open again. -/
theorem lifecycle_lawless :
    ¬ Lawful { workspace := .office } newEmail escalatedAfterDismissal := by
  intro lawful
  have hfinal := lawful.final (escalatedAfterDismissal.take 3) (escalatedAfterDismissal.drop 3)
    rfl 0 .dismissed (by decide) rfl
  revert hfinal
  decide

end Kanzan.Inbox

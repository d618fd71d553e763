import Kanzan.Tickets.AutoClose

/-!
# Survey tasks and the resolutions that enqueue them

One ticket, the requests that change its status, the hook that enqueues a survey task
once a resolution has committed, and the executions of such tasks, each of which reads
the ticket in one step and sends its email in another.  The task carries no identity of
the resolution that enqueued it.
-/

namespace Kanzan.Tickets

open Sla Support

/-! ## The machine -/

/-- An execution of `send_csat_survey_email` that has passed its guards. -/
structure SurveyExecution where
  resolution : ℕ
  loadedAt : ℕ
  recipient : String
  deriving DecidableEq, Repr

/-- A survey email, and the resolution whose task sent it. -/
structure SurveyEmail where
  resolution : ℕ
  recipient : String
  deriving DecidableEq, Repr

/--
The store with the two values outside it that the task reads, what is under way, and how
often a step has left the ticket outside the resolved status.  Hooks, tasks, executions and
emails are told by that number at their resolution.
-/
structure SurveyMachine where
  db : Db
  csatRating : Option ℕ := none
  contactEmail : Option String := none
  departures : ℕ := 0
  instances : ℕ → Option Ticket := fun _ => none
  hooks : List ℕ := []
  tasks : List ℕ := []
  executions : List SurveyExecution := []
  sent : List SurveyEmail := []

inductive SurveyAction where
  /-- A request loads the ticket. -/
  | load (request : ℕ)
  /-- It changes the status of its instance, and commits. -/
  | change (request : ℕ) (newStatus : TicketStatus) (req : Request)
  /-- A request moves the ticket to another stage of its pipeline. -/
  | moveStage (newStage : PipelineStage) (reason : String) (req : Request)
  /-- The customer rates the ticket. -/
  | rate (rating : ℕ)
  /-- The address of the contact is edited. -/
  | editContact (email : Option String)
  /-- `_schedule_csat_survey`, run by the hook of a resolution. -/
  | enqueue (resolution : ℕ) (brokerUp : Bool)
  /-- `send_csat_survey_email` loads the ticket and looks at its guards. -/
  | loadForSurvey (resolution : ℕ)
  /-- `send_csat_survey_email` hands its email over, or fails to. -/
  | send (execution : SurveyExecution) (delivered : Bool)

/-- The guards of `send_csat_survey_email`, and the address that it writes to. -/
def surveyRecipient (ticket : Ticket) (csatRating : Option ℕ) (contactEmail : Option String) :
    Option String :=
  if ticket.status.slug ≠ "resolved" then none
  else if csatRating.isSome then none
  else contactEmail.filter fun email => email ≠ ""

section Machine

variable (ws : Workspace) (id : ℕ)

/-- Commit a session's store; the hooks it registered await their turn. -/
def SurveyMachine.commit (m : SurveyMachine) (db : Db) : SurveyMachine :=
  { m with
    db := { db with onCommit := [] }
    hooks := m.hooks ++ db.onCommit.map fun _ => m.departures }

def SurveyMachine.act (m : SurveyMachine) : SurveyAction → SurveyMachine
  | .load request => { m with instances := Function.update m.instances request (m.db.tickets id) }
  | .change request newStatus req =>
    match m.instances request with
    | none => m
    | some ticket =>
      let s := changeTicketStatus ws req newStatus { db := m.db, id, ticket }
      { m.commit s.db with instances := Function.update m.instances request (some s.ticket) }
  | .moveStage newStage reason req =>
    match m.db.onTicket id (transitionPipelineStage ws req newStage reason) with
    | .error _ => m
    | .ok after => m.commit after
  | .rate rating => { m with csatRating := some (m.csatRating.getD rating) }
  | .editContact email => { m with contactEmail := email }
  | .enqueue resolution brokerUp =>
    if resolution ∈ m.hooks then
      { m with
        hooks := m.hooks.erase resolution
        tasks := if brokerUp then m.tasks ++ [resolution] else m.tasks }
    else m
  | .loadForSurvey resolution =>
    if resolution ∈ m.tasks then
      let m := { m with tasks := m.tasks.erase resolution }
      match (m.db.tickets id).bind fun ticket =>
          surveyRecipient ticket m.csatRating m.contactEmail with
      | none => m
      | some recipient =>
        { m with
          executions := m.executions ++ [{ resolution, loadedAt := m.departures, recipient }] }
    else m
  | .send execution delivered =>
    if execution ∈ m.executions then
      { m with
        executions := m.executions.erase execution
        sent :=
          if delivered then m.sent ++ [⟨execution.resolution, execution.recipient⟩] else m.sent }
    else m

/-- One step: an action, and the ticket seen outside the resolved status or not. -/
def SurveyMachine.step (m : SurveyMachine) (action : SurveyAction) : SurveyMachine :=
  let m := m.act ws id action
  { m with departures := if m.db.isResolved id then m.departures else m.departures + 1 }

def SurveyMachine.InForce (m : SurveyMachine) (resolution : ℕ) : Prop :=
  m.db.isResolved id = true ∧ resolution = m.departures

/-- A survey email is sent by the task of the resolution the ticket is in, which has sent
no other. -/
def SurveysInForce (m : SurveyMachine) (action : SurveyAction) : Prop :=
  match action with
  | .send execution true => execution ∈ m.executions →
      m.InForce id execution.resolution ∧ ∀ email ∈ m.sent, email.resolution ≠ execution.resolution
  | _ => True

instance (m : SurveyMachine) (resolution : ℕ) : Decidable (m.InForce id resolution) :=
  inferInstanceAs (Decidable (_ ∧ _))

instance (m : SurveyMachine) (action : SurveyAction) : Decidable (SurveysInForce id m action) :=
  match action with
  | .send execution true => inferInstanceAs (Decidable (execution ∈ m.executions → _ ∧ _))
  | .send _ false | .load .. | .change .. | .moveStage .. | .rate .. | .editContact ..
  | .enqueue .. | .loadForSurvey .. => isTrue trivial

/-- Whether a survey task, or a hook that will enqueue one, is still to run. -/
def SurveyMachine.awaitsSurvey (m : SurveyMachine) : Bool := !m.hooks.isEmpty || !m.tasks.isEmpty

/--
The steps that leave every survey to its own resolution: an unrated ticket enters the
resolved status only when no survey of an earlier resolution is still to run, a request
that resolves it has not read it before another one did so, and an email is sent before
the ticket has left the resolved status in which its task read it.
-/
def surveysApart (m : SurveyMachine) (action : SurveyAction) : Bool :=
  match action with
  | .change request newStatus _ =>
    m.csatRating.isSome || !newStatus.isResolved || (m.instances request).all fun ticket =>
      ticket.status == newStatus ||
        if m.db.isResolved id then ticket.status.isResolved else !m.awaitsSurvey
  | .moveStage newStage _ _ =>
    m.csatRating.isSome || m.db.isResolved id || !m.awaitsSurvey ||
      (m.db.tickets id).all fun row => !entersStage newStage row ||
        (stageTarget ws newStage row.status).all fun target => !target.isResolved
  | .send execution delivered =>
    !delivered || execution ∉ m.executions || execution.loadedAt == m.departures
  | _ => true

end Machine

/-! ## The invariant -/

namespace SurveyMachine

variable (m : SurveyMachine) (resolution : ℕ)

/-- Hooks and tasks of a resolution that may still lead to an email. -/
def outstanding : ℕ :=
  if m.csatRating.isSome then 0 else m.hooks.count resolution + m.tasks.count resolution

def loaded : ℕ := (m.executions.map SurveyExecution.resolution).count resolution

def mailed : ℕ := (m.sent.map SurveyEmail.resolution).count resolution

def surveys : ℕ := m.outstanding resolution + m.loaded resolution + m.mailed resolution

end SurveyMachine

variable {ws : Workspace} {id : ℕ} {m m' : SurveyMachine}
variable {req : Request} {action : SurveyAction}

/-- No resolution has two surveys, and those to come are of the resolution the ticket is in. -/
structure Apart (id : ℕ) (m : SurveyMachine) : Prop where
  quiet : m.db.onCommit = []
  stored : (m.db.tickets id).isSome = true
  single : ∀ resolution, m.surveys resolution ≤ 1
  past : ∀ resolution, m.departures < resolution → m.surveys resolution = 0
  current : m.db.isResolved id = true → ∀ resolution, resolution ≠ m.departures →
    m.outstanding resolution = 0
  loadedAt : ∀ execution ∈ m.executions, execution.loadedAt = execution.resolution

/-- Moreover, outside the resolved status all of them are of the past. -/
structure ApartAway (id : ℕ) (m : SurveyMachine) : Prop extends Apart id m where
  away : m.db.isResolved id = false → ∀ resolution, m.departures ≤ resolution →
    m.surveys resolution = 0

theorem Apart.step {action : SurveyAction} (apart : Apart id (m.act ws id action)) :
    ApartAway id (m.step ws id action) := by
  unfold SurveyMachine.step
  dsimp only
  cases hresolved : (m.act ws id action).db.isResolved id with
  | true =>
    rw [if_pos rfl]
    refine ⟨apart, fun haway => ?_⟩
    rw [hresolved] at haway
    cases haway
  | false =>
    rw [if_neg Bool.false_ne_true]
    refine ⟨⟨apart.quiet, apart.stored, apart.single, fun resolution hlater => ?_, fun hback => ?_,
      apart.loadedAt⟩, fun _ resolution hlater => ?_⟩
    · exact apart.past resolution (Nat.lt_of_succ_lt hlater)
    · rw [hresolved] at hback
      cases hback
    · exact apart.past resolution hlater

theorem Apart.of_le (apart : Apart id m) (hdb : m'.db = m.db)
    (hdepartures : m'.departures = m.departures)
    (houtstanding : ∀ resolution, m'.outstanding resolution ≤ m.outstanding resolution)
    (hsurveys : ∀ resolution, m'.surveys resolution ≤ m.surveys resolution)
    (hloaded : ∀ execution ∈ m'.executions, execution.loadedAt = execution.resolution) :
    Apart id m' where
  quiet := by rw [hdb, apart.quiet]
  stored := by rw [hdb, apart.stored]
  single resolution := (hsurveys resolution).trans (apart.single resolution)
  past resolution hlater := by
    rw [hdepartures] at hlater
    exact Nat.eq_zero_of_le_zero ((hsurveys resolution).trans_eq (apart.past resolution hlater))
  current hresolved resolution hne := by
    rw [hdb] at hresolved
    rw [hdepartures] at hne
    exact Nat.eq_zero_of_le_zero
      ((houtstanding resolution).trans_eq (apart.current hresolved resolution hne))
  loadedAt := hloaded

theorem count_map_erase {α : Type} [DecidableEq α] (tag : α → ℕ) {items : List α} {item : α}
    (hitem : item ∈ items) (resolution : ℕ) :
    (items.map tag).count resolution =
      ((items.erase item).map tag).count resolution + if tag item = resolution then 1 else 0 := by
  rw [((List.perm_cons_erase hitem).map tag).count_eq, List.map_cons, List.count_cons]
  simp

theorem count_erase_add {items : List ℕ} {item : ℕ} (hitem : item ∈ items) (resolution : ℕ) :
    items.count resolution =
      (items.erase item).count resolution + if item = resolution then 1 else 0 := by
  have h := count_map_erase id hitem resolution
  simpa only [List.map_id, id_eq] using h

theorem apart_enqueue (apart : Apart id m) (resolution : ℕ) (brokerUp : Bool) :
    Apart id (m.act ws id (.enqueue resolution brokerUp)) := by
  dsimp only [SurveyMachine.act]
  split
  · rename_i hhook
    have houtstanding : ∀ other, SurveyMachine.outstanding
        { m with
          hooks := m.hooks.erase resolution
          tasks := if brokerUp then m.tasks ++ [resolution] else m.tasks } other ≤
        m.outstanding other := by
      intro other
      have hcount := count_erase_add hhook other
      unfold SurveyMachine.outstanding
      dsimp only
      split
      · exact le_rfl
      · cases brokerUp with
        | true =>
          rw [if_pos rfl, List.count_append, List.count_singleton]
          simp only [beq_iff_eq]
          omega
        | false =>
          rw [if_neg Bool.false_ne_true]
          omega
    refine apart.of_le rfl rfl houtstanding (fun other => ?_) apart.loadedAt
    exact Nat.add_le_add_right (Nat.add_le_add_right (houtstanding other) _) _
  · exact apart

/-- A task looks at its guards: it gives up, or finds the ticket in its own resolution. -/
theorem apart_loadForSurvey (apart : Apart id m) (resolution : ℕ) :
    Apart id (m.act ws id (.loadForSurvey resolution)) := by
  dsimp only [SurveyMachine.act]
  split
  case isFalse => exact apart
  rename_i htask
  have hcount := count_erase_add htask
  have houtstanding : ∀ other, SurveyMachine.outstanding
      { m with tasks := m.tasks.erase resolution } other ≤ m.outstanding other := by
    intro other
    have hother := hcount other
    unfold SurveyMachine.outstanding
    dsimp only
    split <;> omega
  cases hrecipient : (m.db.tickets id).bind fun ticket =>
      surveyRecipient ticket m.csatRating m.contactEmail with
  | none =>
    refine apart.of_le rfl rfl houtstanding (fun other => ?_) apart.loadedAt
    exact Nat.add_le_add_right (Nat.add_le_add_right (houtstanding other) _) _
  | some recipient =>
    obtain ⟨ticket, hticket, hguards⟩ := Option.bind_eq_some_iff.mp hrecipient
    unfold surveyRecipient at hguards
    split at hguards
    · cases hguards
    rename_i hslug
    split at hguards
    · cases hguards
    rename_i hunrated
    have hresolved : m.db.isResolved id = true := by
      rw [Db.isResolved, hticket]
      simpa [TicketStatus.isResolved] using hslug
    have hown : resolution = m.departures := by
      by_contra hne
      have hnone := apart.current hresolved resolution hne
      have hpositive := List.count_pos_iff.mpr htask
      unfold SurveyMachine.outstanding at hnone
      rw [if_neg hunrated] at hnone
      omega
    refine apart.of_le rfl rfl houtstanding (fun other => ?_) fun execution hexecution => ?_
    · have hother := hcount other
      unfold SurveyMachine.surveys SurveyMachine.outstanding SurveyMachine.loaded
        SurveyMachine.mailed
      dsimp only
      rw [if_neg hunrated, if_neg hunrated, List.map_append, List.count_append, List.map_singleton,
        List.count_singleton]
      simp only [beq_iff_eq]
      omega
    · rcases List.mem_append.mp hexecution with hbefore | hnew
      · exact apart.loadedAt execution hbefore
      · rw [List.mem_singleton] at hnew
        rw [hnew, hown]

theorem apart_send (apart : Apart id m) (execution : SurveyExecution) (delivered : Bool) :
    Apart id (m.act ws id (.send execution delivered)) := by
  dsimp only [SurveyMachine.act]
  split
  · rename_i hexecution
    refine apart.of_le rfl rfl (fun _ => le_rfl) (fun other => ?_) fun other hother => ?_
    · have hcount := count_map_erase SurveyExecution.resolution hexecution other
      unfold SurveyMachine.surveys SurveyMachine.outstanding SurveyMachine.loaded
        SurveyMachine.mailed
      dsimp only
      cases delivered with
      | true =>
        rw [if_pos rfl, List.map_append, List.count_append, List.map_singleton,
          List.count_singleton]
        simp only [beq_iff_eq]
        omega
      | false =>
        rw [if_neg Bool.false_ne_true]
        omega
    · exact apart.loadedAt other (List.mem_of_mem_erase hother)
  · exact apart

theorem outstanding_of_rated (hrated : m.csatRating.isSome = true) (resolution : ℕ) :
    m.outstanding resolution = 0 := by
  rw [SurveyMachine.outstanding, if_pos hrated]

theorem outstanding_of_not_awaits (hnone : m.awaitsSurvey = false) (resolution : ℕ) :
    m.outstanding resolution = 0 := by
  simp only [SurveyMachine.awaitsSurvey, Bool.or_eq_false_iff, Bool.not_eq_false',
    List.isEmpty_iff] at hnone
  simp [SurveyMachine.outstanding, hnone.1, hnone.2]

/--
A commit keeps the surveys apart when, for an unrated ticket, it registers a hook only on the
way into the resolved status, and goes there only with no survey still to run.
-/
theorem apart_commit (apart : ApartAway id m) {db : Db} (registers : Prop) [Decidable registers]
    (hstored : (db.tickets id).isSome = true)
    (hhooks : db.onCommit = if registers then [id] else [])
    (henters : m.csatRating.isSome = false → m.db.isResolved id = false →
      registers ∨ db.isResolved id = true → m.awaitsSurvey = false)
    (hregisters : m.csatRating.isSome = false → m.db.isResolved id = true → ¬ registers) :
    Apart id (m.commit db) := by
  have houtstanding : ∀ resolution, (m.commit db).outstanding resolution =
      m.outstanding resolution +
        if m.csatRating.isSome = false ∧ registers ∧ m.departures = resolution then 1 else 0 := by
    intro resolution
    unfold SurveyMachine.outstanding SurveyMachine.commit
    dsimp only
    rw [hhooks]
    by_cases hrated : m.csatRating.isSome = true
    · simp [hrated]
    · by_cases hregister : registers
      · simp [hrated, hregister, List.count_singleton]
        omega
      · simp [hrated, hregister]
  have hsurveys : ∀ resolution, (m.commit db).surveys resolution =
      m.surveys resolution +
        if m.csatRating.isSome = false ∧ registers ∧ m.departures = resolution then 1 else 0 := by
    intro resolution
    have hsame : (m.commit db).loaded resolution = m.loaded resolution ∧
        (m.commit db).mailed resolution = m.mailed resolution := ⟨rfl, rfl⟩
    unfold SurveyMachine.surveys
    rw [houtstanding, hsame.1, hsame.2]
    omega
  have haway : ∀ resolution, m.csatRating.isSome = false ∧ registers ∧ m.departures = resolution →
      m.surveys resolution = 0 := by
    rintro resolution ⟨hunrated, hregister, rfl⟩
    apply apart.away _ m.departures le_rfl
    cases hresolved : m.db.isResolved id with
    | true => exact absurd hregister (hregisters hunrated hresolved)
    | false => rfl
  refine ⟨rfl, hstored, fun resolution => ?_, fun resolution hlater => ?_,
    fun hresolved resolution hne => ?_, apart.loadedAt⟩
  · rw [hsurveys]
    split
    · rename_i hnew
      rw [haway resolution hnew]
    · exact apart.single resolution
  · rw [hsurveys, if_neg fun hnew => Nat.ne_of_lt hlater hnew.2.2]
    exact apart.past resolution hlater
  · rw [houtstanding, if_neg fun hnew => hne hnew.2.2.symm]
    cases hrated : m.csatRating.isSome with
    | true => exact outstanding_of_rated hrated resolution
    | false =>
      cases hbefore : m.db.isResolved id with
      | true => exact apart.current hbefore resolution hne
      | false =>
        exact outstanding_of_not_awaits (henters hrated hbefore (.inr hresolved)) resolution

theorem Apart.instances (apart : Apart id m) (instances : ℕ → Option Ticket) :
    Apart id { m with instances } :=
  apart.of_le rfl rfl (fun _ => le_rfl) (fun _ => le_rfl) apart.loadedAt

theorem apart_change (apart : ApartAway id m) {request : ℕ} {newStatus : TicketStatus}
    (hapart : surveysApart ws id m (.change request newStatus req) = true) :
    Apart id (m.act ws id (.change request newStatus req)) := by
  dsimp only [SurveyMachine.act]
  split
  · exact apart.toApart
  rename_i ticket hticket
  apply Apart.instances
  have hhooks := changeTicketStatus_onCommit ws req newStatus { db := m.db, id, ticket }
  dsimp only at hhooks
  rw [apart.quiet, List.nil_append] at hhooks
  simp only [surveysApart, hticket, Option.all_some, Bool.or_eq_true, beq_iff_eq] at hapart
  obtain ⟨previous, hprevious⟩ := Option.isSome_iff_exists.mp apart.stored
  by_cases hsame : ticket.status = newStatus
  · have hkept : changeTicketStatus ws req newStatus { db := m.db, id, ticket } =
        { db := m.db, id, ticket } := by
      rw [changeTicketStatus, if_pos hsame]
    have hnone : ¬ resolvedEdge ticket.status newStatus := by
      rw [hsame]
      exact fun hedge => hedge.2 hedge.1
    rw [hkept] at hhooks ⊢
    refine apart_commit apart (resolvedEdge ticket.status newStatus) apart.stored hhooks ?_ ?_
    · rintro - haway (hedge | hresolved)
      · exact absurd hedge hnone
      · rw [haway] at hresolved
        cases hresolved
    · exact fun _ _ => hnone
  · obtain ⟨row, hrow, hstatus, -⟩ :=
      @changeTicketStatus_row ws req newStatus { db := m.db, id, ticket } previous hprevious hsame
    have hresolved : (changeTicketStatus ws req newStatus
        { db := m.db, id, ticket }).db.isResolved id = newStatus.isResolved := by
      rw [Db.isResolved, show (changeTicketStatus ws req newStatus
        { db := m.db, id, ticket }).db.tickets id = some row from hrow, ← hstatus]
      rfl
    have hcondition : m.csatRating.isSome = false → newStatus.isResolved = true →
        if m.db.isResolved id then ticket.status.isResolved = true else m.awaitsSurvey = false := by
      intro hunrated hnew
      rcases hapart with (hrated | hunresolved) | hequal | hcase
      · rw [hunrated] at hrated
        cases hrated
      · rw [hnew] at hunresolved
        cases hunresolved
      · exact absurd hequal hsame
      · split at hcase
        · rename_i hresolved
          rwa [if_pos hresolved]
        · rename_i haway
          rw [if_neg haway]
          simpa using hcase
    refine apart_commit apart (resolvedEdge ticket.status newStatus) ?_ hhooks ?_ ?_
    · rw [show (changeTicketStatus ws req newStatus
        { db := m.db, id, ticket }).db.tickets id = some row from hrow]
      rfl
    · intro hunrated haway henters
      have hnew : newStatus.isResolved = true := by
        rcases henters with hedge | henters
        · exact (resolvedEdge_iff.mp hedge).1
        · rwa [hresolved] at henters
      simpa [haway] using hcondition hunrated hnew
    · intro hunrated hbefore hedge
      obtain ⟨hnew, hold⟩ := resolvedEdge_iff.mp hedge
      have hread := hcondition hunrated hnew
      rw [if_pos hbefore, hold] at hread
      cases hread

theorem apart_moveStage (apart : ApartAway id m) {newStage : PipelineStage} {reason : String}
    (hapart : surveysApart ws id m (.moveStage newStage reason req) = true) :
    Apart id (m.act ws id (.moveStage newStage reason req)) := by
  dsimp only [SurveyMachine.act]
  split
  · exact apart.toApart
  rename_i after success
  obtain ⟨ticket, s, hticket, hok, rfl⟩ := onTicket_eq_ok.mp success
  rcases transitionPipelineStage_cases hok with rfl | ⟨henters, rfl⟩
  · refine apart_commit apart False apart.stored (by rw [apart.quiet, if_neg not_false]) ?_
      fun _ _ => not_false
    rintro - haway (hfalse | hresolved)
    · exact hfalse.elim
    · rw [haway] at hresolved
      cases hresolved
  · have huntouched := saveDraft_untouched ws req.clock (stageDraft ws req newStage reason ticket)
      { db := m.db, id, ticket }
    obtain ⟨row, hrow, hcore⟩ := saveDraft_row ws req.clock
      (stageDraft ws req newStage reason ticket) (s := { db := m.db, id, ticket }) hticket
      (stageDraft_listed.imp_right Eq.symm)
    have hstatus : row.status = (stageTarget ws newStage ticket.status).getD ticket.status := by
      rw [eq_of_core hcore Ticket.status (fun _ => rfl), ← @stageDraft_status ws req]
      dsimp only [Ticket.persist]
      rw [handleTicketStatusChange_status]
      split
      · rfl
      · rename_i hunlisted
        exact (stageDraft_listed.resolve_left hunlisted).symm
    refine apart_commit apart False (by exact Option.isSome_iff_exists.mpr ⟨row, hrow⟩) ?_ ?_
      fun _ _ => not_false
    · rw [if_neg not_false]
      exact huntouched.onCommit.trans apart.quiet
    · rintro hunrated haway (hfalse | hresolved)
      · exact hfalse.elim
      have hbefore : ticket.status.isResolved = false := by
        rw [Db.isResolved, hticket] at haway
        exact haway
      have hafter : row.status.isResolved = true := by
        unfold Db.isResolved at hresolved
        dsimp only [Session.log, createTicketActivity_tickets] at hresolved
        rw [hrow] at hresolved
        exact hresolved
      simp only [surveysApart, hunrated, haway, hticket, Option.all_some, henters, Bool.false_or,
        Bool.not_true, Bool.or_eq_true, Bool.not_eq_true'] at hapart
      rcases hapart with hnone | hkept
      · exact hnone
      · rw [hstatus] at hafter
        cases htarget : stageTarget ws newStage ticket.status with
        | none =>
          rw [htarget, Option.getD_none, hbefore] at hafter
          cases hafter
        | some target =>
          rw [htarget, Option.getD_some] at hafter
          rw [htarget, Option.all_some, hafter] at hkept
          cases hkept

theorem apart_act (apart : ApartAway id m) (hapart : surveysApart ws id m action = true) :
    Apart id (m.act ws id action) := by
  cases action with
  | load request => exact apart.toApart.instances _
  | change request newStatus req => exact apart_change apart hapart
  | moveStage newStage reason req => exact apart_moveStage apart hapart
  | rate rating =>
    have houtstanding : ∀ resolution, SurveyMachine.outstanding
        { m with csatRating := some (m.csatRating.getD rating) } resolution = 0 :=
      outstanding_of_rated rfl
    refine apart.toApart.of_le rfl rfl (fun resolution => ?_) (fun resolution => ?_)
      apart.loadedAt
    · rw [SurveyMachine.act, houtstanding]
      exact Nat.zero_le _
    · rw [SurveyMachine.surveys, SurveyMachine.act, houtstanding, Nat.zero_add]
      exact Nat.add_le_add_right (Nat.le_add_left _ _) _
  | editContact email =>
    exact apart.toApart.of_le rfl rfl (fun _ => le_rfl) (fun _ => le_rfl) apart.loadedAt
  | enqueue resolution brokerUp => exact apart_enqueue apart.toApart resolution brokerUp
  | loadForSurvey resolution => exact apart_loadForSurvey apart.toApart resolution
  | send execution delivered => exact apart_send apart.toApart execution delivered

/-! ## Runs -/

theorem ApartAway.surveysInForce (apart : ApartAway id m)
    (hapart : surveysApart ws id m action = true) : SurveysInForce id m action := by
  cases action <;> try trivial
  case send execution delivered =>
    cases delivered with
    | false => trivial
    | true =>
      intro hexecution
      have hread : execution.resolution = m.departures := by
        rw [← apart.loadedAt execution hexecution]
        simpa [surveysApart, hexecution] using hapart
      have hloaded : 0 < m.loaded execution.resolution :=
        List.count_pos_iff.mpr (List.mem_map_of_mem hexecution)
      have hsingle := apart.single execution.resolution
      unfold SurveyMachine.surveys at hsingle
      refine ⟨⟨?_, hread⟩, fun email hemail hsame => ?_⟩
      · by_contra haway
        rw [Bool.not_eq_true] at haway
        have hnone := apart.away haway execution.resolution (ge_of_eq hread)
        unfold SurveyMachine.surveys at hnone
        omega
      · have hmailed : 0 < m.mailed execution.resolution := by
          rw [← hsame]
          exact List.count_pos_iff.mpr (List.mem_map_of_mem hemail)
        omega

/-- The machine before its first action: a stored ticket, no survey under way. -/
def SurveyMachine.start (db : Db) (csatRating : Option ℕ) (contactEmail : Option String) :
    SurveyMachine :=
  { db := { db with onCommit := [] }, csatRating, contactEmail }

theorem start_apart {db : Db} (hstored : (db.tickets id).isSome = true) (csatRating : Option ℕ)
    (contactEmail : Option String) :
    ApartAway id (SurveyMachine.start db csatRating contactEmail) := by
  have hnone : ∀ resolution,
      (SurveyMachine.start db csatRating contactEmail).outstanding resolution = 0 := by
    intro resolution
    unfold SurveyMachine.outstanding
    split <;> rfl
  have hsurveys : ∀ resolution,
      (SurveyMachine.start db csatRating contactEmail).surveys resolution = 0 := by
    intro resolution
    rw [SurveyMachine.surveys, hnone]
    rfl
  refine ⟨⟨rfl, hstored, fun resolution => ?_, fun resolution _ => hsurveys resolution,
    fun _ resolution _ => hnone resolution, fun _ hexecution => ?_⟩,
    fun _ resolution _ => hsurveys resolution⟩
  · rw [hsurveys]
    exact Nat.zero_le 1
  · cases hexecution

/-- In every interleaving of admitted steps, a survey is sent by the task of the resolution
that the ticket is in, and no resolution has two. -/
theorem surveys_in_force_throughout (ws : Workspace) (id : ℕ) (db : Db) (csatRating : Option ℕ)
    (contactEmail : Option String) (hstored : (db.tickets id).isSome = true)
    (actions : List SurveyAction)
    (hapart : Every (SurveyMachine.step ws id) (fun m action => surveysApart ws id m action = true)
      (SurveyMachine.start db csatRating contactEmail) actions) :
    Every (SurveyMachine.step ws id) (SurveysInForce id)
      (SurveyMachine.start db csatRating contactEmail) actions := by
  refine every_of_invariant (ApartAway id) ?_ ?_ (start_apart hstored csatRating contactEmail)
    actions hapart
  · intro m action apart hadmitted
    exact apart.surveysInForce hadmitted
  · intro m action apart hadmitted
    exact (apart_act apart hadmitted).step

/-- The ticket is resolved, its survey sent, and the ticket reopened and resolved again. -/
def surveyedTwice : List SurveyAction :=
  [ .load 0, .change 0 resolvedStatus { clock := ⟨10, 10, 10, 10⟩ }, .enqueue 1 true,
    .loadForSurvey 1, .send ⟨1, 1, "ada@example.com"⟩ true,
    .load 1, .change 1 openStatus { clock := ⟨20, 20, 20, 20⟩ },
    .load 2, .change 2 resolvedStatus { clock := ⟨30, 30, 30, 30⟩ }, .enqueue 3 true,
    .loadForSurvey 3, .send ⟨3, 3, "ada@example.com"⟩ true ]

theorem surveys_in_force_on_surveyedTwice :
    Every (SurveyMachine.step .seeded 0) (SurveysInForce 0)
      (SurveyMachine.start .oneTicket none (some "ada@example.com")) surveyedTwice ∧
    (run (SurveyMachine.step .seeded 0)
      (SurveyMachine.start .oneTicket none (some "ada@example.com")) surveyedTwice).sent =
        [⟨1, "ada@example.com"⟩, ⟨3, "ada@example.com"⟩] := by
  refine ⟨?_, by decide⟩
  apply surveys_in_force_throughout .seeded 0 .oneTicket none (some "ada@example.com") rfl
  decide

/-- The ticket is reopened and resolved again before the first survey is due. -/
def resolvedAgainWithinDelay : List SurveyAction :=
  [ .load 0, .change 0 resolvedStatus { clock := ⟨10, 10, 10, 10⟩ }, .enqueue 1 true,
    .load 1, .change 1 openStatus { clock := ⟨20, 20, 20, 20⟩ },
    .load 2, .change 2 resolvedStatus { clock := ⟨30, 30, 30, 30⟩ }, .enqueue 3 true,
    .loadForSurvey 1, .send ⟨1, 3, "ada@example.com"⟩ true ]

theorem surveys_out_of_force_on_resolvedAgainWithinDelay :
    ¬ Every (SurveyMachine.step .seeded 0) (SurveysInForce 0)
      (SurveyMachine.start .oneTicket none (some "ada@example.com"))
      resolvedAgainWithinDelay := by
  decide

end Kanzan.Tickets

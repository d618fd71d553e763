import Kanzan.Inbox.Lifecycle

/-!
# Breaches of response deadlines

Sweeps of the deadlines that overlap with each other and with the services of the hub: who is
notified of a breach, and which emails are escalated for one.
-/

namespace Kanzan.Inbox

open Sla Support Agents Tickets

/-! ## Notices -/

/-- The recipients in `_notify_sla`: the assignee, and the lead of the department. -/
def slaRecipients (he : HubEmail) : List ℕ :=
  he.assignee.toList ++
    ((he.department.map Department.lead).filter fun lead => he.assignee ≠ some lead).toList

/-- A notification of a response breach, and whether the email had a first response when the breach
was flagged. -/
structure Notice where
  email : ℕ
  recipients : List ℕ
  responded : Bool
  deriving DecidableEq

/-- The processes, the notices of response breaches and the escalations for them. -/
structure Watch where
  world : World HubRun Errand
  notices : List Notice := []
  escalations : List ℕ := []

/-- The notice that a process sends with its next turn: it follows its flag. -/
def noticed (run : HubRun) (errand : Errand) : Action → List Notice
  | .proceed _ =>
    match errand with
    | .sweeping now .response id he =>
      if he.responseOverdue now then
        [{ email := id
           recipients := slaRecipients he
           responded := (run.db.emails id).any fun row => row.firstRespondedAt.isSome }]
      else []
    | _ => []
  | _ => []

def escalated (errand : Errand) : Action → List ℕ
  | .proceed _ =>
    match errand with
    | .sweeping _ .escalation id he => if canTransition he.state .escalated then [id] else []
    | _ => []
  | _ => []

def watch (hub : Hub) (watched : Watch) (event : ℕ × Action) : Watch where
  world := turn hub watched.world event
  notices := watched.notices ++
    noticed watched.world.shared (watched.world.locals event.1) event.2
  escalations := watched.escalations ++ escalated (watched.world.locals event.1) event.2

/-! ## Flags -/

def HubDb.flagged (db : HubDb) (id : ℕ) : Bool := (db.emails id).any HubEmail.responseBreached

/-- The emails stay, with their flags. -/
structure KeepsFlags (db db' : HubDb) : Prop where
  present : ∀ id, (db.emails id).isSome = true → (db'.emails id).isSome = true
  flags : ∀ id, db'.flagged id = db.flagged id

def SameFlag (row row' : HubEmail) : Prop := row'.responseBreached = row.responseBreached

section Flags

variable {hub : Hub} {req : Request} {id : ℕ} {db db' : HubDb} {s s' : HubSession}

theorem KeepsFlags.of_emails (hsame : db'.emails = db.emails) : KeepsFlags db db' where
  present _ hsome := by rwa [hsame]
  flags _ := by rw [HubDb.flagged, HubDb.flagged, hsame]

theorem Touches.keepsFlags (touches : Touches id SameFlag db db') : KeepsFlags db db' where
  present other hsome := by
    by_cases hother : other = id
    · subst hother
      obtain ⟨row, hrow⟩ := Option.isSome_iff_exists.mp hsome
      obtain ⟨row', hrow', -⟩ := touches.row row hrow
      rw [hrow']
      rfl
    · rwa [touches.others other hother]
  flags other := by
    by_cases hother : other = id
    · subst hother
      cases hrow : db.emails other with
      | none => rw [HubDb.flagged, HubDb.flagged, touches.absent hrow, hrow]
      | some row =>
        obtain ⟨row', hrow', hflag⟩ := touches.row row hrow
        rw [HubDb.flagged, HubDb.flagged, hrow', hrow, Option.any_some, Option.any_some, hflag]
    · rw [HubDb.flagged, HubDb.flagged, touches.others other hother]

theorem KeepsFlags.of_updateEmail {between : HubDb} (hsame : between.emails = db.emails)
    {write : HubEmail → HubEmail} (hflag : ∀ row, SameFlag row (write row)) :
    KeepsFlags db (between.updateEmail id write) :=
  Touches.keepsFlags (Touches.of_updateEmail hsame write fun row _ => hflag row)

theorem KeepsFlags.save {write : HubEmail → HubEmail} (hflag : ∀ row, SameFlag row (write row)) :
    KeepsFlags s.db (s.save write).db :=
  .of_updateEmail rfl hflag

variable (req s) in
theorem keepsFlags_escalate : KeepsFlags s.db (escalateHubEmail req s).db := by
  unfold escalateHubEmail
  split
  · exact .save fun _ => rfl
  · exact .of_emails rfl

theorem keepsFlags_reassign {newUser : ℕ} {note : String}
    (success : reassignHubEmail hub req id newUser note db = .ok db') : KeepsFlags db db' := by
  obtain ⟨he, row, -, -, hdb⟩ := reassignHubEmail_cases success
  have hemails : db'.emails = (db.updateEmail id (.reassign req newUser)).emails := by
    rw [hdb]
    exact moveLoad_emails ..
  exact Touches.keepsFlags (Touches.of_update hemails fun _ _ => rfl)

theorem keepsFlags_callService {service : Service} {conversions : List Conversion}
    (success : callService hub req s service = .ok (s', conversions)) :
    KeepsFlags s.db s'.db := by
  cases service with
  | route decision =>
    obtain ⟨rfl, -⟩ := Prod.mk.inj (Except.ok.inj success)
    exact .save fun _ => rfl
  | initializeSla =>
    obtain ⟨rfl, -⟩ := Prod.mk.inj (Except.ok.inj success)
    unfold initializeHubSla
    split
    · exact .of_emails rfl
    · exact .save fun _ => rfl
  | assignTo user reason requireOnline =>
    obtain ⟨rfl, -⟩ := Prod.mk.inj (Except.ok.inj success)
    cases hassigned : assignTo hub req s.id user reason requireOnline s.db with
    | none => exact .of_emails rfl
    | some after =>
      obtain ⟨-, -, rfl⟩ := assignTo_eq_some.mp hassigned
      exact Touches.keepsFlags
        (Touches.of_update (commitAssignment_emails reason) fun _ _ => rfl)
  | reassign newUser note =>
    obtain ⟨db, hreassigned, hs⟩ := map_eq_ok.mp success
    obtain ⟨rfl, -⟩ := Prod.mk.inj hs
    exact keepsFlags_reassign hreassigned
  | transition newState =>
    obtain ⟨t, htransition, hs⟩ := map_eq_ok.mp success
    obtain ⟨rfl, -⟩ := Prod.mk.inj hs
    obtain ⟨-, responds, rfl⟩ := transitionHubEmail_cases htransition
    exact .save fun _ => rfl
  | escalate =>
    obtain ⟨rfl, -⟩ := Prod.mk.inj (Except.ok.inj success)
    exact keepsFlags_escalate req s
  | dismiss reason =>
    obtain ⟨t, hdismissed, hs⟩ := map_eq_ok.mp success
    obtain ⟨rfl, -⟩ := Prod.mk.inj hs
    obtain ⟨-, -, -, ⟨-, hsame⟩ | ⟨-, hsaved⟩⟩ := dismissHubEmail_cases hdismissed
    · exact .of_emails (by rw [hsame])
    · rw [hsaved]
      exact .of_updateEmail rfl fun _ => rfl
  | convert creator overrides =>
    obtain ⟨⟨ticket, t⟩, hconverted, hs⟩ := map_eq_ok.mp success
    obtain ⟨rfl, -⟩ := Prod.mk.inj hs
    obtain ⟨-, -, -, ⟨-, hsame⟩ | ⟨-, -, db, hcreate, hsaved⟩⟩ := convertToTicket_cases hconverted
    · exact .of_emails (by rw [hsame])
    · rw [hsaved]
      exact .of_updateEmail (createHubTicket_cases hcreate).2.emails fun _ => rfl

theorem keepsFlags_park : KeepsFlags db (parkEmailInHub req id db) := by
  unfold parkEmailInHub
  split
  · exact .of_emails rfl
  · rename_i hfresh
    have hnone : db.emails id = none := Option.not_isSome_iff_eq_none.mp hfresh
    constructor
    · intro other hsome
      change (Function.update db.emails id _ other).isSome = true
      by_cases hother : other = id
      · subst hother
        rw [Function.update_self]
        rfl
      · rwa [Function.update_of_ne hother]
    · intro other
      change (Function.update db.emails id _ other).any _ = _
      by_cases hother : other = id
      · subst hother
        rw [Function.update_self, HubDb.flagged, hnone]
        rfl
      · rw [Function.update_of_ne hother, HubDb.flagged]

end Flags

/-! ## Turns -/

def Errand.sweeps (errand : Errand) (step : SweepStep) (id : ℕ) (he : HubEmail) : Prop :=
  ∃ now, errand = .sweeping now step id he

/-- What a turn does to the store and to a sweep, and what it sends. -/
inductive Turned (run : HubRun) (errand : Errand) (run' : HubRun) (errand' : Errand) :
    List Notice → List ℕ → Prop where
  | goesOn (hkeeps : KeepsFlags run.db run'.db)
      (herrand : errand' = errand ∨ ∀ step id he, ¬ errand'.sweeps step id he) :
      Turned run errand run' errand' [] []
  | loads (now : Instant) (id : ℕ) (he : HubEmail) (hrow : run.db.emails id = some he)
      (hrun : run' = run) (herrand : errand' = .sweeping now .response id he) :
      Turned run errand run' errand' [] []
  | flags (now : Instant) (id : ℕ) (he he' : HubEmail) (notice : Notice)
      (hbefore : errand = .sweeping now .response id he)
      (hoverdue : he.responseOverdue now = true)
      (hflags : Touches id (fun _ row' => row'.responseBreached = true) run.db run'.db)
      (hemail : notice.email = id)
      (hresponded : notice.responded =
        (run.db.emails id).any fun row => row.firstRespondedAt.isSome)
      (herrand : errand' = .sweeping now .escalation id he') :
      Turned run errand run' errand' [notice] []
  | escalates (id : ℕ) (he : HubEmail) (sent : List ℕ) (hbefore : errand.sweeps .escalation id he)
      (hkeeps : KeepsFlags run.db run'.db) (hsent : sent = [id] ∨ sent = [])
      (herrand : ∃ he', errand'.sweeps .resolution id he') :
      Turned run errand run' errand' [] sent
  | settles (id : ℕ) (hbefore : ∃ step he, errand.sweeps step id he)
      (hkeeps : KeepsFlags run.db run'.db)
      (herrand : errand' = .idle ∨ ∃ he', errand'.sweeps .resolution id he') :
      Turned run errand run' errand' [] []

section Turns

variable {hub : Hub} {req : Request}

theorem not_sweeps_idle (step : SweepStep) (id : ℕ) (he : HubEmail) :
    ¬ Errand.idle.sweeps step id he := by
  rintro ⟨now, hidle⟩
  cases hidle

theorem not_sweeps_holding (own : ℕ) (row : HubEmail) (step : SweepStep) (id : ℕ) (he : HubEmail) :
    ¬ (Errand.holding own row).sweeps step id he := by
  rintro ⟨now, hholding⟩
  cases hholding

theorem turned_proceed (run : HubRun) (now : Instant) (step : SweepStep) (id : ℕ) (he : HubEmail) :
    Turned run (.sweeping now step id he)
      (act hub run (.sweeping now step id he) (.proceed req)).1
      (act hub run (.sweeping now step id he) (.proceed req)).2
      (noticed run (.sweeping now step id he) (.proceed req))
      (escalated (.sweeping now step id he) (.proceed req)) := by
  cases step with
  | response =>
    by_cases hoverdue : he.responseOverdue now = true
    · simp only [act, sweepOn, noticed, escalated, hoverdue, if_true]
      exact .flags now id he _ _ rfl hoverdue (.of_update rfl fun _ _ => rfl) rfl rfl rfl
    · by_cases hnear : he.responseNear hub now = true
      · simp only [act, sweepOn, noticed, escalated, hoverdue, hnear, if_true, if_false,
          Bool.false_eq_true]
        exact .settles id ⟨_, he, now, rfl⟩ (.of_updateEmail rfl fun _ => rfl)
          (.inr ⟨_, now, rfl⟩)
      · simp only [act, sweepOn, noticed, escalated, hoverdue, hnear, if_false,
          Bool.false_eq_true]
        exact .settles id ⟨_, he, now, rfl⟩ (.of_emails rfl) (.inr ⟨_, now, rfl⟩)
  | escalation =>
    have hkeeps : KeepsFlags run.db
        (escalateHubEmail req { db := run.db, id, hubEmail := he }).db :=
      keepsFlags_escalate req { db := run.db, id, hubEmail := he }
    refine .escalates id he _ ⟨now, rfl⟩ hkeeps ?_ ⟨_, now, rfl⟩
    simp only [escalated]
    split
    · exact .inl rfl
    · exact .inr rfl
  | resolution =>
    refine .settles id ⟨_, he, now, rfl⟩ ?_ (.inl rfl)
    simp only [act, sweepOn]
    split
    · exact .of_updateEmail rfl fun _ => rfl
    · exact .of_emails rfl

theorem turned_act (run : HubRun) (errand : Errand) (action : Action) :
    Turned run errand (act hub run errand action).1 (act hub run errand action).2
      (noticed run errand action) (escalated errand action) := by
  cases action with
  | park req id => exact .goesOn keepsFlags_park (.inl rfl)
  | load id =>
    simp only [act, noticed, escalated]
    cases run.db.emails id with
    | none => exact .goesOn (.of_emails rfl) (.inr not_sweeps_idle)
    | some he => exact .goesOn (.of_emails rfl) (.inr (not_sweeps_holding id he))
  | call req service =>
    cases errand with
    | holding id he =>
      simp only [act, noticed, escalated]
      cases hcall : callService hub req { db := run.db, id, hubEmail := he } service with
      | error message => exact .goesOn (.of_emails rfl) (.inr not_sweeps_idle)
      | ok result =>
        exact .goesOn (keepsFlags_callService hcall) (.inr (not_sweeps_holding id _))
    | idle => exact .goesOn (.of_emails rfl) (.inl rfl)
    | sweeping now step id he => exact .goesOn (.of_emails rfl) (.inl rfl)
  | sweep now id =>
    simp only [act, noticed, escalated]
    cases hfound : (run.db.emails id).filter HubEmail.sweeps with
    | none => exact .goesOn (.of_emails rfl) (.inr not_sweeps_idle)
    | some he =>
      have hrow : run.db.emails id = some he := (Option.filter_eq_some_iff.mp hfound).1
      exact .loads now id he hrow rfl rfl
  | proceed req =>
    cases errand with
    | sweeping now step id he => exact turned_proceed run now step id he
    | idle => exact .goesOn (.of_emails rfl) (.inl rfl)
    | holding id he => exact .goesOn (.of_emails rfl) (.inl rfl)

end Turns

/-! ## Runs -/

/-- Every email has at most one notice of a breach and at most one escalation for it, and neither
once it had a first response when the breach was flagged. -/
structure NotifiedOnce (watched : Watch) : Prop where
  notices : (watched.notices.map Notice.email).Nodup
  escalations : watched.escalations.Nodup
  escalated : ∀ id ∈ watched.escalations, id ∈ watched.notices.map Notice.email
  unanswered : ∀ notice ∈ watched.notices, notice.responded = false

/-- A sweep that is about to flag a breach finds the row without the flag and without a first
response. -/
def FlagsFresh (watched : Watch) (event : ℕ × Action) : Prop :=
  ∀ notice ∈ noticed watched.world.shared (watched.world.locals event.1) event.2,
    watched.world.shared.db.flagged notice.email = false ∧
      ((watched.world.shared.db.emails notice.email).any fun row =>
        row.firstRespondedAt.isSome) = false

/-- What sweeps with fresh flags keep. -/
structure Tracked (watched : Watch) : Prop where
  once : NotifiedOnce watched
  flagged : ∀ id ∈ watched.notices.map Notice.email, watched.world.shared.db.flagged id = true
  present : ∀ process step id he, (watched.world.locals process).sweeps step id he →
    (watched.world.shared.db.emails id).isSome = true
  noticed : ∀ process id he, (watched.world.locals process).sweeps .response id he →
    he.responseBreached = false → watched.world.shared.db.flagged id = true →
      id ∈ watched.notices.map Notice.email
  pending : ∀ process id he, (watched.world.locals process).sweeps .escalation id he →
    id ∈ watched.notices.map Notice.email ∧ id ∉ watched.escalations
  apart : ∀ process other id he he', process ≠ other →
    (watched.world.locals process).sweeps .escalation id he →
      ¬ (watched.world.locals other).sweeps .escalation id he'

variable {process : ℕ} {next : Watch} {he : HubEmail} {notice : Notice} {now : Instant}

section Runs

variable {hub : Hub} {watched : Watch} {event : ℕ × Action}
variable {id : ℕ}

theorem turned_watch (watched : Watch) (process : ℕ) (action : Action) :
    Turned watched.world.shared (watched.world.locals process)
      (watch hub watched (process, action)).world.shared
      ((watch hub watched (process, action)).world.locals process)
      (noticed watched.world.shared (watched.world.locals process) action)
      (escalated (watched.world.locals process) action) := by
  change Turned _ _ (World.turn (fun _ => act hub) watched.world (process, action)).shared
    ((World.turn (fun _ => act hub) watched.world (process, action)).locals process) _ _
  rw [World.turn_shared, World.turn_locals_self]
  exact turned_act _ _ action

theorem watch_locals_of_ne (watched : Watch) {other : ℕ} (action : Action)
    (hother : other ≠ process) :
    (watch hub watched (process, action)).world.locals other = watched.world.locals other := by
  change (World.turn (fun _ => act hub) watched.world (process, action)).locals other = _
  exact World.turn_locals_of_ne watched.world action hother

theorem sweeps_of_noticed {run : HubRun} {errand : Errand} {action : Action}
    (hmem : notice ∈ noticed run errand action) :
    (∃ he, errand.sweeps .response notice.email he ∧ he.responseBreached = false) ∧
      notice.responded =
        (run.db.emails notice.email).any fun row => row.firstRespondedAt.isSome := by
  unfold noticed at hmem
  split at hmem
  · split at hmem
    · rename_i now id he
      split at hmem
      · rename_i hoverdue
        rw [HubEmail.responseOverdue, Bool.and_eq_true, Bool.and_eq_true] at hoverdue
        rw [List.mem_singleton.mp hmem]
        exact ⟨⟨he, ⟨now, rfl⟩, by simpa using hoverdue.1.1⟩, rfl⟩
      · cases hmem
    · cases hmem
  · cases hmem

theorem Tracked.quiet (tracked : Tracked watched)
    (hkeeps : KeepsFlags watched.world.shared.db next.world.shared.db)
    (hothers : ∀ other, other ≠ process → next.world.locals other = watched.world.locals other)
    (hself : next.world.locals process = watched.world.locals process ∨
      ∀ step id he, (next.world.locals process).sweeps step id he →
        step = .resolution ∧ (watched.world.shared.db.emails id).isSome = true)
    (hnotices : next.notices = watched.notices)
    (hescalations : next.escalations = watched.escalations) : Tracked next := by
  have hkept : ∀ other step id he, (next.world.locals other).sweeps step id he →
      step ≠ .resolution → (watched.world.locals other).sweeps step id he := by
    intro other step id he hsweeps hstep
    by_cases hother : other = process
    · subst hother
      rcases hself with hsame | hresolution
      · rwa [hsame] at hsweeps
      · exact absurd (hresolution step id he hsweeps).1 hstep
    · rwa [hothers other hother] at hsweeps
  constructor
  · exact
      { notices := hnotices ▸ tracked.once.notices
        escalations := hescalations ▸ tracked.once.escalations
        escalated := by
          rw [hnotices, hescalations]
          exact tracked.once.escalated
        unanswered := hnotices ▸ tracked.once.unanswered }
  · intro id hmem
    rw [hkeeps.flags]
    exact tracked.flagged id (hnotices ▸ hmem)
  · intro other step id he hsweeps
    refine hkeeps.present id ?_
    by_cases hother : other = process
    · subst hother
      rcases hself with hsame | hresolution
      · exact tracked.present other step id he (hsame ▸ hsweeps)
      · exact (hresolution step id he hsweeps).2
    · exact tracked.present other step id he (hothers other hother ▸ hsweeps)
  · intro other id he hsweeps hunflagged hflagged
    rw [hnotices]
    rw [hkeeps.flags] at hflagged
    exact tracked.noticed other id he (hkept other _ id he hsweeps nofun) hunflagged hflagged
  · intro other id he hsweeps
    rw [hnotices, hescalations]
    exact tracked.pending other id he (hkept other _ id he hsweeps nofun)
  · intro one other id he he' hne hsweeps hsweeps'
    exact tracked.apart one other id he he' hne (hkept one _ id he hsweeps nofun)
      (hkept other _ id he' hsweeps' nofun)

theorem Tracked.load (tracked : Tracked watched)
    (hrow : watched.world.shared.db.emails id = some he)
    (hshared : next.world.shared = watched.world.shared)
    (hothers : ∀ other, other ≠ process → next.world.locals other = watched.world.locals other)
    (hself : next.world.locals process = .sweeping now .response id he)
    (hnotices : next.notices = watched.notices)
    (hescalations : next.escalations = watched.escalations) : Tracked next := by
  have hcases : ∀ other step own row, (next.world.locals other).sweeps step own row →
      (watched.world.locals other).sweeps step own row ∨
        (step = .response ∧ own = id ∧ row = he) := by
    intro other step own row hsweeps
    by_cases hother : other = process
    · rw [hother, hself] at hsweeps
      obtain ⟨began, hsweeping⟩ := hsweeps
      cases hsweeping
      exact .inr ⟨rfl, rfl, rfl⟩
    · rw [hothers other hother] at hsweeps
      exact .inl hsweeps
  constructor
  · exact
      { notices := hnotices ▸ tracked.once.notices
        escalations := hescalations ▸ tracked.once.escalations
        escalated := by
          rw [hnotices, hescalations]
          exact tracked.once.escalated
        unanswered := hnotices ▸ tracked.once.unanswered }
  · rw [hnotices, hshared]
    exact tracked.flagged
  · intro other step own row hsweeps
    rw [hshared]
    rcases hcases other step own row hsweeps with hsweeps | ⟨-, rfl, -⟩
    · exact tracked.present other step own row hsweeps
    · rw [hrow]
      rfl
  · intro other own row hsweeps hunflagged hflagged
    rw [hnotices]
    rw [hshared] at hflagged
    rcases hcases other _ own row hsweeps with hsweeps | ⟨-, rfl, rfl⟩
    · exact tracked.noticed other own row hsweeps hunflagged hflagged
    · rw [HubDb.flagged, hrow, Option.any_some, hunflagged] at hflagged
      cases hflagged
  · intro other own row hsweeps
    rw [hnotices, hescalations]
    rcases hcases other _ own row hsweeps with hsweeps | ⟨hstep, -⟩
    · exact tracked.pending other own row hsweeps
    · cases hstep
  · intro one other own row row' hne hsweeps hsweeps'
    rcases hcases one _ own row hsweeps with hsweeps | ⟨hstep, -⟩
    · rcases hcases other _ own row' hsweeps' with hsweeps' | ⟨hstep, -⟩
      · exact tracked.apart one other own row row' hne hsweeps hsweeps'
      · cases hstep
    · cases hstep

theorem Tracked.flag (tracked : Tracked watched) {he' : HubEmail}
    (hbefore : watched.world.locals process = .sweeping now .response id he)
    (hflags : Touches id (fun _ row' => row'.responseBreached = true) watched.world.shared.db
      next.world.shared.db) (hemail : notice.email = id) (hothers : ∀ other, other ≠ process →
      next.world.locals other = watched.world.locals other)
    (hself : next.world.locals process = .sweeping now .escalation id he')
    (hnotices : next.notices = watched.notices ++ [notice])
    (hescalations : next.escalations = watched.escalations)
    (hfresh : watched.world.shared.db.flagged id = false) (hresponded : notice.responded = false) :
    Tracked next := by
  have hnew : id ∉ watched.notices.map Notice.email := by
    intro hmem
    have hflagged := tracked.flagged id hmem
    rw [hfresh] at hflagged
    cases hflagged
  have hemails : next.notices.map Notice.email = watched.notices.map Notice.email ++ [id] := by
    rw [hnotices, List.map_append, List.map_singleton, hemail]
  have hflagged : next.world.shared.db.flagged id = true := by
    have hsome := tracked.present process _ id he ⟨now, hbefore⟩
    obtain ⟨row, hrow⟩ := Option.isSome_iff_exists.mp hsome
    obtain ⟨row', hrow', hbreached⟩ := hflags.row row hrow
    rw [HubDb.flagged, hrow', Option.any_some, hbreached]
  have hsame : ∀ own, own ≠ id →
      next.world.shared.db.flagged own = watched.world.shared.db.flagged own := by
    intro own hown
    rw [HubDb.flagged, HubDb.flagged, hflags.others own hown]
  have hcases : ∀ other step own row, (next.world.locals other).sweeps step own row →
      (other ≠ process ∧ (watched.world.locals other).sweeps step own row) ∨
        (other = process ∧ step = .escalation ∧ own = id) := by
    intro other step own row hsweeps
    by_cases hother : other = process
    · rw [hother, hself] at hsweeps
      obtain ⟨began, hsweeping⟩ := hsweeps
      cases hsweeping
      exact .inr ⟨hother, rfl, rfl⟩
    · rw [hothers other hother] at hsweeps
      exact .inl ⟨hother, hsweeps⟩
  constructor
  · exact
      { notices := by
          rw [hemails]
          refine List.nodup_append.mpr ⟨tracked.once.notices, List.nodup_singleton id, ?_⟩
          intro own hmem other hother
          rw [List.mem_singleton.mp hother]
          rintro rfl
          exact hnew hmem
        escalations := hescalations ▸ tracked.once.escalations
        escalated := by
          rw [hemails, hescalations]
          exact fun own hmem => List.mem_append_left _ (tracked.once.escalated own hmem)
        unanswered := by
          intro sent hmem
          rw [hnotices, List.mem_append, List.mem_singleton] at hmem
          rcases hmem with hmem | rfl
          · exact tracked.once.unanswered sent hmem
          · exact hresponded }
  · intro own hmem
    rw [hemails, List.mem_append, List.mem_singleton] at hmem
    by_cases hown : own = id
    · rw [hown]
      exact hflagged
    · rw [hsame own hown]
      exact tracked.flagged own (hmem.resolve_right hown)
  · intro other step own row hsweeps
    have hsome : (watched.world.shared.db.emails own).isSome = true := by
      rcases hcases other step own row hsweeps with ⟨-, hsweeps⟩ | ⟨-, -, rfl⟩
      · exact tracked.present other step own row hsweeps
      · exact tracked.present process _ own he ⟨now, hbefore⟩
    by_cases hown : own = id
    · rw [hown] at hsome ⊢
      obtain ⟨old, hrow⟩ := Option.isSome_iff_exists.mp hsome
      obtain ⟨row', hrow', -⟩ := hflags.row old hrow
      rw [hrow']
      rfl
    · rw [hflags.others own hown]
      exact hsome
  · intro other own row hsweeps hunflagged hown
    rw [hemails, List.mem_append, List.mem_singleton]
    by_cases heq : own = id
    · exact .inr heq
    · rw [hsame own heq] at hown
      rcases hcases other _ own row hsweeps with ⟨-, hsweeps⟩ | ⟨-, hstep, -⟩
      · exact .inl (tracked.noticed other own row hsweeps hunflagged hown)
      · cases hstep
  · intro other own row hsweeps
    rw [hemails, hescalations, List.mem_append, List.mem_singleton]
    rcases hcases other _ own row hsweeps with ⟨-, hsweeps⟩ | ⟨-, -, rfl⟩
    · obtain ⟨hmem, hnot⟩ := tracked.pending other own row hsweeps
      exact ⟨.inl hmem, hnot⟩
    · exact ⟨.inr rfl, fun hmem => hnew (tracked.once.escalated own hmem)⟩
  · intro one other own row row' hne hsweeps hsweeps'
    rcases hcases one _ own row hsweeps with ⟨hone, hsweeps⟩ | ⟨hone, -, hid⟩
    · rcases hcases other _ own row' hsweeps' with ⟨-, hsweeps'⟩ | ⟨-, -, hid⟩
      · exact tracked.apart one other own row row' hne hsweeps hsweeps'
      · exact hnew (hid ▸ (tracked.pending one own row hsweeps).1)
    · rcases hcases other _ own row' hsweeps' with ⟨-, hsweeps'⟩ | ⟨hother, -⟩
      · exact hnew (hid ▸ (tracked.pending other own row' hsweeps').1)
      · exact hne (hone.trans hother.symm)

theorem Tracked.escalate (tracked : Tracked watched) {sent : List ℕ}
    (hbefore : (watched.world.locals process).sweeps .escalation id he)
    (hkeeps : KeepsFlags watched.world.shared.db next.world.shared.db)
    (hothers : ∀ other, other ≠ process → next.world.locals other = watched.world.locals other)
    (hself : ∃ he', (next.world.locals process).sweeps .resolution id he')
    (hnotices : next.notices = watched.notices) (hsent : sent = [id] ∨ sent = [])
    (hescalations : next.escalations = watched.escalations ++ sent) : Tracked next := by
  obtain ⟨he', began, hnext⟩ := hself
  have hpresent := tracked.present process _ id he hbefore
  obtain ⟨hnoticed, hnot⟩ := tracked.pending process id he hbefore
  have hmine : ∀ own ∈ sent, own = id := by
    intro own hmem
    rcases hsent with rfl | rfl
    · exact List.mem_singleton.mp hmem
    · cases hmem
  have hresolution : ∀ step own row, (next.world.locals process).sweeps step own row →
      step = .resolution ∧ (watched.world.shared.db.emails own).isSome = true := by
    rintro step own row ⟨when, hsweeping⟩
    rw [hnext] at hsweeping
    cases hsweeping
    exact ⟨rfl, hpresent⟩
  -- Apart from the escalation, the sweep goes on as before.
  have quiet : Tracked { next with escalations := watched.escalations } :=
    tracked.quiet hkeeps hothers (.inr hresolution) hnotices rfl
  constructor
  · exact
      { notices := quiet.once.notices
        escalations := by
          rw [hescalations]
          refine List.nodup_append.mpr ⟨tracked.once.escalations, ?_, ?_⟩
          · rcases hsent with rfl | rfl
            · exact List.nodup_singleton id
            · exact List.nodup_nil
          · intro own hmem other hother
            rw [hmine other hother]
            rintro rfl
            exact hnot hmem
        escalated := by
          rw [hescalations, hnotices]
          intro own hmem
          rcases List.mem_append.mp hmem with hmem | hmem
          · exact tracked.once.escalated own hmem
          · rw [hmine own hmem]
            exact hnoticed
        unanswered := quiet.once.unanswered }
  · exact quiet.flagged
  · exact quiet.present
  · exact quiet.noticed
  · intro other own row hsweeps
    obtain ⟨hmem, hnotmem⟩ := quiet.pending other own row hsweeps
    refine ⟨hmem, ?_⟩
    rw [hescalations, List.mem_append]
    rintro (hmem | hmem)
    · exact hnotmem hmem
    · have hother : other ≠ process := by
        rintro rfl
        cases (hresolution _ own row hsweeps).1
      rw [hothers other hother, hmine own hmem] at hsweeps
      exact tracked.apart process other id he row (Ne.symm hother) hbefore hsweeps
  · exact quiet.apart

theorem Tracked.step (tracked : Tracked watched) (fresh : FlagsFresh watched event) :
    Tracked (watch hub watched event) := by
  obtain ⟨process, action⟩ := event
  have hothers : ∀ other, other ≠ process →
      (watch hub watched (process, action)).world.locals other = watched.world.locals other :=
    fun other hother => watch_locals_of_ne watched action hother
  have hnotices : (watch hub watched (process, action)).notices = watched.notices ++
      Inbox.noticed watched.world.shared (watched.world.locals process) action := rfl
  have hescalations : (watch hub watched (process, action)).escalations =
      watched.escalations ++ escalated (watched.world.locals process) action := rfl
  have turned : Turned _ _ (watch hub watched (process, action)).world.shared _ _ _ :=
    turned_watch watched process action
  unfold FlagsFresh at fresh
  dsimp only at fresh
  generalize Inbox.noticed watched.world.shared (watched.world.locals process) action = notices
    at turned hnotices fresh
  generalize escalated (watched.world.locals process) action = escalations
    at turned hescalations
  generalize watch hub watched (process, action) = next at *
  cases turned with
  | goesOn hkeeps herrand =>
    rw [List.append_nil] at hnotices hescalations
    refine tracked.quiet hkeeps hothers ?_ hnotices hescalations
    exact herrand.imp id fun hnone step id he hsweeps => absurd hsweeps (hnone step id he)
  | loads now id he hrow hrun herrand =>
    rw [List.append_nil] at hnotices hescalations
    exact tracked.load hrow hrun hothers herrand hnotices hescalations
  | flags now id he he' notice hbefore hoverdue hflags hemail hresponded herrand =>
    rw [List.append_nil] at hescalations
    obtain ⟨hflag, hunanswered⟩ := fresh notice (List.mem_singleton_self notice)
    rw [hemail] at hflag hunanswered
    exact tracked.flag hbefore hflags hemail hothers herrand hnotices hescalations hflag
      (hresponded.trans hunanswered)
  | escalates id he sent hbefore hkeeps hsent herrand =>
    rw [List.append_nil] at hnotices
    exact tracked.escalate hbefore hkeeps hothers herrand hnotices hsent hescalations
  | settles id hbefore hkeeps herrand =>
    rw [List.append_nil] at hnotices hescalations
    refine tracked.quiet hkeeps hothers (.inr ?_) hnotices hescalations
    obtain ⟨step, he, hsweeps⟩ := hbefore
    rintro after own row ⟨when, hsweeping⟩
    rcases herrand with hidle | ⟨he', began, hresolution⟩
    · rw [hidle] at hsweeping
      cases hsweeping
    · rw [hresolution] at hsweeping
      cases hsweeping
      exact ⟨rfl, tracked.present process step id he hsweeps⟩

theorem fresh_of_notifiedOnce (tracked : Tracked watched)
    (once : NotifiedOnce (watch hub watched event)) : FlagsFresh watched event := by
  obtain ⟨process, action⟩ := event
  have hnotices : (watch hub watched (process, action)).notices = watched.notices ++
      noticed watched.world.shared (watched.world.locals process) action := rfl
  intro notice hmem
  obtain ⟨⟨he, hsweeps, hunflagged⟩, hresponded⟩ := sweeps_of_noticed hmem
  have hunanswered := once.unanswered notice (hnotices ▸ List.mem_append_right _ hmem)
  refine ⟨?_, hresponded.symm.trans hunanswered⟩
  have hnodup := once.notices
  rw [hnotices, List.map_append] at hnodup
  cases hflagged : watched.world.shared.db.flagged notice.email with
  | false => rfl
  | true =>
    have hold := tracked.noticed process notice.email he hsweeps hunflagged hflagged
    have hnew := List.mem_map_of_mem (f := Notice.email) hmem
    exact absurd rfl ((List.nodup_append.mp hnodup).2.2 _ hold _ hnew)

end Runs

def unwatched (db : HubDb) : Watch where
  world := { shared := { db }, locals := fun _ => .idle }

theorem tracked_unwatched (db : HubDb) : Tracked (unwatched db) where
  once :=
    { notices := List.nodup_nil
      escalations := List.nodup_nil
      escalated := fun _ hmem => absurd hmem List.not_mem_nil
      unanswered := fun _ hmem => absurd hmem List.not_mem_nil }
  flagged _ hmem := absurd hmem List.not_mem_nil
  present _ step id he hsweeps := absurd hsweeps (not_sweeps_idle step id he)
  noticed _ id he hsweeps := absurd hsweeps (not_sweeps_idle _ id he)
  pending _ id he hsweeps := absurd hsweeps (not_sweeps_idle _ id he)
  apart _ _ id he _ _ hsweeps := absurd hsweeps (not_sweeps_idle _ id he)

/--
Every email has at most one notice and one escalation of a breach, and none after a first response,
exactly in the schedules in which every sweep finds the row still to be flagged.
-/
theorem always_notifiedOnce_iff (hub : Hub) (db : HubDb) (schedule : List (ℕ × Action)) :
    Always (watch hub) NotifiedOnce (unwatched db) schedule ↔
      Every (watch hub) FlagsFresh (unwatched db) schedule :=
  always_iff_every (fun (watched : Watch) (tracked : Tracked watched) => tracked.once)
    (fun _ _ tracked fresh => tracked.step fresh)
    (fun _ _ tracked once => fresh_of_notifiedOnce tracked once) (tracked_unwatched db) schedule

/-- An email whose response is late. -/
def lateEmail : HubDb where
  emails id :=
    if id = 0 then some { state := .assigned, assignee := some 7, slaResponseDueAt := some 10 }
    else none
  emailIds := [0]

/-- Two sweeps load the email, and then both flag it. -/
theorem not_always_notifiedOnce_overlapping :
    ¬ Always (watch { workspace := Workspace.seeded }) NotifiedOnce (unwatched lateEmail)
      [(0, .sweep 20 0), (1, .sweep 20 0), (0, .proceed { clock := ⟨20, 20, 20, 20⟩ }),
        (1, .proceed { clock := ⟨20, 20, 20, 20⟩ })] := by
  intro always
  have notices := always.finish.notices
  revert notices
  decide +kernel

end Kanzan.Inbox

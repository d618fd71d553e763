import Kanzan.Sla.BusinessHours
import Kanzan.Support.Processes

/-!
# Submitting a satisfaction survey

`CSATSubmitView.create` in its three steps, for any number of submissions at once: the
read that turns away a ticket rated before, the conditional update, and the timeline
entry with the answer.
-/

namespace Kanzan.Tickets

open Sla Support

/-! ## Submissions -/

/-- The columns of the ticket table that a survey reads or fills. -/
structure CsatRow where
  tenant : ℕ
  csatRating : Option ℕ := none
  csatComment : String := ""
  csatSubmittedAt : Option Instant := none
  updatedAt : Instant
  deriving DecidableEq, Repr

/-- A `CSAT_RECEIVED` entry of the timeline. -/
structure CsatReceived where
  tenant : ℕ
  ticket : ℕ
  message : String
  rating : ℕ
  comment : String
  deriving DecidableEq, Repr

structure CsatDb where
  rows : ℕ → Option CsatRow
  received : List CsatReceived := []

/-- The payload of a survey token. -/
structure SurveyPayload where
  t : Option ℕ
  n : Option ℕ
  deriving DecidableEq, Repr

/-- A submission as `CSATSubmitSerializer` passes it on; `payload` is what
`signing.loads` reads in its token, if the signature is good and not too old. -/
structure Submission where
  payload : Option SurveyPayload
  rating : ℕ
  comment : String := ""
  rating_bounds : 1 ≤ rating ∧ rating ≤ 5
  deriving DecidableEq

inductive CsatResponse where
  | badRequest (detail : String)
  | notFound (detail : String)
  | conflict (detail : String)
  | ok (detail : String) (rating : ℕ)
  deriving DecidableEq, Repr

/-- How far `create` has come with a submission. -/
inductive CsatPhase where
  | arrived
  | unrated (ticket tenant : ℕ)
  | updated (ticket tenant : ℕ)
  | answered (response : CsatResponse)
  deriving DecidableEq, Repr

structure Submitting where
  submission : Submission
  phase : CsatPhase := .arrived

/-- The token, the ticket and its rating, as `create` checks them. -/
def CsatDb.check (db : CsatDb) (submission : Submission) : CsatPhase :=
  match submission.payload with
  | none => .answered (.badRequest "Invalid or expired survey token.")
  | some { t := some ticket, n := some tenant } =>
    match (db.rows ticket).filter fun row => row.tenant = tenant with
    | none => .answered (.notFound "Ticket not found.")
    | some row =>
      if row.csatRating.isSome then
        .answered (.conflict "Survey already submitted for this ticket.")
      else .unrated ticket tenant
  | some _ => .answered (.badRequest "Malformed survey token.")

/-- `update(csat_rating=rating, ...)` of a row whose rating is null. -/
def CsatRow.rate (now : Instant) (submission : Submission) (row : CsatRow) : CsatRow :=
  if row.csatRating.isSome then row
  else
    { row with
      csatRating := some submission.rating
      csatComment := submission.comment
      csatSubmittedAt := some now
      updatedAt := now }

def CsatDb.rate (db : CsatDb) (now : Instant) (ticket : ℕ) (submission : Submission) : CsatDb :=
  { db with
    rows := Function.update db.rows ticket ((db.rows ticket).map (CsatRow.rate now submission)) }

def Submission.entry (submission : Submission) (ticket tenant : ℕ) : CsatReceived :=
  { tenant
    ticket
    message := s!"CSAT received: {submission.rating}/5"
    rating := submission.rating
    comment := submission.comment }

/-- The next step of `CSATSubmitView.create` for one submission. -/
def submitCsat (_process : ℕ) (db : CsatDb) (submitting : Submitting) (now : Instant) :
    CsatDb × Submitting :=
  let submission := submitting.submission
  match submitting.phase with
  | .arrived => (db, { submitting with phase := db.check submission })
  | .unrated ticket tenant =>
    (db.rate now ticket submission, { submitting with phase := .updated ticket tenant })
  | .updated ticket tenant =>
    ({ db with received := db.received ++ [submission.entry ticket tenant] },
      { submitting with
        phase := .answered (.ok "Thank you for your feedback." submission.rating) })
  | .answered _ => (db, submitting)

/-! ## One rating for each ticket -/

def CsatDb.receivedOf (db : CsatDb) (ticket : ℕ) : List CsatReceived :=
  db.received.filter fun entry => entry.ticket = ticket

def CsatPhase.IsUnrated : CsatPhase → Prop
  | .unrated _ _ => True
  | .arrived | .updated _ _ | .answered _ => False

/-- Whether the guard has let a submission through, now or earlier. -/
def CsatPhase.Accepted : CsatPhase → Prop
  | .unrated _ _ | .updated _ _ | .answered (.ok _ _) => True
  | .arrived | .answered _ => False

def CsatPhase.IsSuccess : CsatPhase → Prop
  | .answered (.ok _ _) => True
  | .arrived | .unrated _ _ | .updated _ _ | .answered _ => False

def CsatPhase.IsAnswered : CsatPhase → Prop
  | .answered _ => True
  | .arrived | .unrated _ _ | .updated _ _ => False

section Ticket

variable (ticket tenant : ℕ)

def Submitting.IsFor (submitting : Submitting) : Prop :=
  submitting.submission.payload = some { t := some ticket, n := some tenant }

def CsatDb.Carries (db : CsatDb) (submission : Submission) : Prop :=
  ∃ row, db.rows ticket = some row ∧ row.tenant = tenant ∧
    row.csatRating = some submission.rating ∧ row.csatComment = submission.comment

/-- The ticket has not been rated. -/
def CsatDb.Blank (db : CsatDb) : Prop :=
  ∃ row, db.rows ticket = some row ∧ row.tenant = tenant ∧ row.csatRating = none

/--
One submission for the ticket is answered with success, its rating and comment are stored,
and the timeline has its entry and no other.  Until the submissions under way have been
answered, it may be that none is.
-/
structure RatedOnce (world : World CsatDb Submitting) : Prop where
  unique : ∀ first second, (world.locals first).IsFor ticket tenant →
    (world.locals first).phase.IsSuccess → (world.locals second).IsFor ticket tenant →
    (world.locals second).phase.IsSuccess → first = second
  stored : ∀ process, (world.locals process).IsFor ticket tenant →
    (world.locals process).phase.IsSuccess →
      world.shared.Carries ticket tenant (world.locals process).submission ∧
        world.shared.receivedOf ticket =
          [(world.locals process).submission.entry ticket tenant]
  exists_success : (∃ process, (world.locals process).IsFor ticket tenant ∧
      (world.locals process).phase.IsAnswered) →
    (∀ process, (world.locals process).IsFor ticket tenant →
      (world.locals process).phase = .arrived ∨ (world.locals process).phase.IsAnswered) →
    ∃ process, (world.locals process).IsFor ticket tenant ∧
      (world.locals process).phase.IsSuccess

/-- No submission reads the ticket between the read and the update of another that found it
unrated. -/
def ReadsApart (world : World CsatDb Submitting) (event : ℕ × Instant) : Prop :=
  (world.locals event.1).IsFor ticket tenant → (world.locals event.1).phase = .arrived →
    ∀ other, (world.locals other).IsFor ticket tenant →
      ¬ (world.locals other).phase.IsUnrated

/-- Before the first submission. -/
structure Unsurveyed (world : World CsatDb Submitting) : Prop where
  blank : world.shared.Blank ticket tenant
  received : world.shared.receivedOf ticket = []
  arrived : ∀ process, (world.locals process).phase = .arrived

/-! ## What a step does -/

/-- A submission past the guard works on the ticket that its token names. -/
def CsatDb.Located (_process : ℕ) (db : CsatDb) (submitting : Submitting) : Prop :=
  ∀ ticket tenant, submitting.phase = .unrated ticket tenant ∨
      submitting.phase = .updated ticket tenant →
    submitting.IsFor ticket tenant ∧ ∃ row, db.rows ticket = some row ∧ row.tenant = tenant

/-- How far the accepted submission of a ticket has come, and the ticket with it. -/
def CsatDb.Stage (db : CsatDb) (submitting : Submitting) : Prop :=
  match submitting.phase with
  | .arrived => False
  | .unrated _ _ => db.Blank ticket tenant ∧ db.receivedOf ticket = []
  | .updated _ _ => db.Carries ticket tenant submitting.submission ∧ db.receivedOf ticket = []
  | .answered response =>
    CsatPhase.IsSuccess (.answered response) ∧
      db.Carries ticket tenant submitting.submission ∧
      db.receivedOf ticket = [submitting.submission.entry ticket tenant]

/-- Either no submission for the ticket has been read, or one has been accepted alone. -/
inductive Progress (world : World CsatDb Submitting) : Prop where
  | untouched (blank : world.shared.Blank ticket tenant)
      (received : world.shared.receivedOf ticket = [])
      (arrived : ∀ process, (world.locals process).IsFor ticket tenant →
        (world.locals process).phase = .arrived)
  | owned (owner : ℕ) (isFor : (world.locals owner).IsFor ticket tenant)
      (only : ∀ process, (world.locals process).IsFor ticket tenant →
        (world.locals process).phase.Accepted → process = owner)
      (stage : world.shared.Stage ticket tenant (world.locals owner))

end Ticket

variable {ticket tenant : ℕ} {world : World CsatDb Submitting}
variable {db : CsatDb} {process : ℕ} {submission : Submission} {submitting : Submitting}
variable {now : Instant} {event : ℕ × Instant} {phase : CsatPhase}

theorem submitCsat_submission (process : ℕ) (db : CsatDb) (submitting : Submitting)
    (now : Instant) : (submitCsat process db submitting now).2.submission =
      submitting.submission := by
  unfold submitCsat
  cases submitting.phase <;> rfl

theorem rate_tenant (now : Instant) (submission : Submission) (row : CsatRow) :
    (row.rate now submission).tenant = row.tenant := by
  unfold CsatRow.rate
  split <;> rfl

theorem check_eq_unrated (h : db.check submission = .unrated ticket tenant) :
    submission.payload = some { t := some ticket, n := some tenant } ∧
      db.Blank ticket tenant := by
  unfold CsatDb.check at h
  split at h
  · cases h
  · rename_i other owner hpayload
    cases hrow : (db.rows other).filter fun row => row.tenant = owner with
    | none =>
      rw [hrow] at h
      cases h
    | some row =>
      rw [hrow] at h
      dsimp only at h
      obtain ⟨hstored, htenant⟩ := Option.filter_eq_some_iff.mp hrow
      split at h
      · cases h
      · rename_i hunrated
        cases h
        rw [Option.not_isSome_iff_eq_none] at hunrated
        exact ⟨hpayload, row, hstored, of_decide_eq_true htenant, hunrated⟩
  · cases h

theorem check_ne_updated : db.check submission ≠ .updated ticket tenant := by
  unfold CsatDb.check
  split
  · nofun
  · split
    · nofun
    · split <;> nofun
  · nofun

theorem check_of_blank (isFor : submitting.IsFor ticket tenant) (blank : db.Blank ticket tenant) :
    db.check submitting.submission = .unrated ticket tenant := by
  obtain ⟨row, hrow, htenant, hrating⟩ := blank
  unfold CsatDb.check
  rw [show submitting.submission.payload = _ from isFor]
  simp [hrow, Option.filter_some, htenant, hrating]

theorem check_of_carries (isFor : submitting.IsFor ticket tenant)
    (carries : db.Carries ticket tenant submission) :
    db.check submitting.submission =
      .answered (.conflict "Survey already submitted for this ticket.") := by
  obtain ⟨row, hrow, htenant, hrating, _⟩ := carries
  unfold CsatDb.check
  rw [show submitting.submission.payload = _ from isFor]
  simp [hrow, Option.filter_some, htenant, hrating]

theorem carries_rate (now : Instant) (blank : db.Blank ticket tenant) :
    (db.rate now ticket submission).Carries ticket tenant submission := by
  obtain ⟨row, hrow, htenant, hrating⟩ := blank
  refine ⟨row.rate now submission, ?_, ?_, ?_, ?_⟩
  · simp [CsatDb.rate, hrow]
  · rw [rate_tenant, htenant]
  · simp [CsatRow.rate, hrating]
  · simp [CsatRow.rate, hrating]

theorem rate_rows_of_ne (now : Instant) {other : ℕ} (hother : ticket ≠ other) :
    (db.rate now other submission).rows ticket = db.rows ticket :=
  Function.update_of_ne hother ..

theorem submitCsat_tenant (process : ℕ) (submitting : Submitting) (now : Instant) {row : CsatRow}
    (hrow : db.rows ticket = some row) :
    ∃ after, (submitCsat process db submitting now).1.rows ticket = some after ∧
      after.tenant = row.tenant := by
  unfold submitCsat
  cases submitting.phase with
  | unrated other owner =>
    by_cases hother : ticket = other
    · subst hother
      refine ⟨row.rate now submitting.submission, ?_, rate_tenant ..⟩
      simp [CsatDb.rate, hrow]
    · exact ⟨row, (rate_rows_of_ne now hother).trans hrow, rfl⟩
  | arrived | updated _ _ | answered _ => exact ⟨row, hrow, rfl⟩

theorem located_submitCsat {process other : ℕ} {db : CsatDb} {submitting moving : Submitting}
    (now : Instant) (located : db.Located process submitting) :
    (submitCsat other db moving now).1.Located process submitting := by
  intro ticket tenant hphase
  obtain ⟨isFor, row, hrow, htenant⟩ := located ticket tenant hphase
  obtain ⟨after, hafter, hkept⟩ := submitCsat_tenant other moving now hrow
  exact ⟨isFor, after, hafter, hkept.trans htenant⟩

/-- Every submission past the guard is located, whatever the order of the steps. -/
theorem sound_submitCsat : World.Sound submitCsat (fun _ _ => True) (fun _ => True)
    CsatDb.Located where
  own world process now keeps _ := by
    refine ⟨trivial, ?_⟩
    have located := keeps.locals process
    have hkept := @located_submitCsat process process _ _ (world.locals process) now located
    cases hphase : (world.locals process).phase with
    | arrived =>
      intro ticket tenant hafter
      simp only [submitCsat, hphase] at hafter ⊢
      rcases hafter with hafter | hafter
      · obtain ⟨hpayload, row, hrow, htenant, _⟩ := check_eq_unrated hafter
        exact ⟨hpayload, row, hrow, htenant⟩
      · exact absurd hafter check_ne_updated
    | unrated ticket tenant =>
      have hown := hkept ticket tenant (.inl hphase)
      intro other owner hafter
      simp only [submitCsat, hphase] at hafter hown ⊢
      rcases hafter with hafter | hafter
      · cases hafter
      · cases hafter
        exact hown
    | updated ticket tenant =>
      intro other owner hafter
      simp only [submitCsat, hphase] at hafter
      rcases hafter with hafter | hafter <;> cases hafter
    | answered response =>
      intro other owner hafter
      simp only [submitCsat, hphase] at hafter
      rcases hafter with hafter | hafter <;> cases hafter
  others world process now other keeps _ _ := located_submitCsat now (keeps.locals other)

/-! ## The invariant -/

/-- What a step of another submission leaves of the ticket, it leaves of its progress. -/
theorem progress_of_elsewhere (elsewhere : ¬ (world.locals process).IsFor ticket tenant)
    (hrows : (world.turn submitCsat (process, now)).shared.rows ticket = world.shared.rows ticket)
    (hreceived : (world.turn submitCsat (process, now)).shared.receivedOf ticket =
      world.shared.receivedOf ticket) (progress : Progress ticket tenant world) :
    Progress ticket tenant (world.turn submitCsat (process, now)) := by
  have hmoved : ¬ ((world.turn submitCsat (process, now)).locals process).IsFor ticket tenant := by
    rw [World.turn_locals_self]
    unfold Submitting.IsFor
    rw [submitCsat_submission]
    exact elsewhere
  have hkept : ∀ other, ((world.turn submitCsat (process, now)).locals other).IsFor ticket tenant →
      (world.turn submitCsat (process, now)).locals other = world.locals other := by
    intro other hother
    apply World.turn_locals_of_ne
    rintro rfl
    exact hmoved hother
  cases progress with
  | untouched blank received arrived =>
    refine .untouched ?_ (hreceived.trans received) fun other hother => ?_
    · unfold CsatDb.Blank
      rw [hrows]
      exact blank
    · have hsame := hkept other hother
      rw [hsame] at hother ⊢
      exact arrived other hother
  | owned owner isFor only stage =>
    have hne : owner ≠ process := by
      rintro rfl
      exact elsewhere isFor
    have hsame : (world.turn submitCsat (process, now)).locals owner = world.locals owner :=
      World.turn_locals_of_ne world now hne
    refine .owned owner ?_ (fun other hother => ?_) ?_
    · rw [hsame]
      exact isFor
    · have hsame := hkept other hother
      rw [hsame] at hother ⊢
      exact only other hother
    · rw [hsame]
      unfold CsatDb.Stage CsatDb.Carries CsatDb.Blank at stage ⊢
      rw [hrows, hreceived]
      exact stage

theorem receivedOf_append (submission : Submission) (other owner : ℕ) :
    CsatDb.receivedOf { db with received := db.received ++ [submission.entry other owner] } ticket =
      db.receivedOf ticket ++
        if other = ticket then [submission.entry other owner] else [] := by
  unfold CsatDb.receivedOf
  rw [List.filter_append]
  by_cases hother : other = ticket <;> simp [Submission.entry, hother]

theorem Progress.exists_row (progress : Progress ticket tenant world) :
    ∃ row, world.shared.rows ticket = some row ∧ row.tenant = tenant := by
  cases progress with
  | untouched blank received arrived =>
    obtain ⟨row, hrow, htenant, _⟩ := blank
    exact ⟨row, hrow, htenant⟩
  | owned owner isFor only stage =>
    unfold CsatDb.Stage at stage
    cases hphase : (world.locals owner).phase with
    | arrived =>
      rw [hphase] at stage
      exact stage.elim
    | unrated other owner =>
      rw [hphase] at stage
      obtain ⟨row, hrow, htenant, _⟩ := stage.1
      exact ⟨row, hrow, htenant⟩
    | updated other owner =>
      rw [hphase] at stage
      obtain ⟨row, hrow, htenant, _⟩ := stage.1
      exact ⟨row, hrow, htenant⟩
    | answered response =>
      rw [hphase] at stage
      obtain ⟨row, hrow, htenant, _⟩ := stage.2.1
      exact ⟨row, hrow, htenant⟩

theorem progress_elsewhere (now : Instant)
    (located : world.shared.Located process (world.locals process))
    (elsewhere : ¬ (world.locals process).IsFor ticket tenant)
    (progress : Progress ticket tenant world) :
    Progress ticket tenant (world.turn submitCsat (process, now)) := by
  obtain ⟨row, hrow, htenant⟩ := progress.exists_row
  have hother : ∀ other owner, (world.locals process).phase = .unrated other owner ∨
      (world.locals process).phase = .updated other owner → other ≠ ticket := by
    rintro other owner hphase rfl
    obtain ⟨isFor, stored, hstored, howner⟩ := located other owner hphase
    rw [hrow, Option.some_inj] at hstored
    subst hstored
    rw [htenant] at howner
    subst howner
    exact elsewhere isFor
  apply progress_of_elsewhere elsewhere _ _ progress
  · rw [World.turn_shared]
    unfold submitCsat
    cases hphase : (world.locals process).phase with
    | unrated other owner => exact rate_rows_of_ne now (hother other owner (.inl hphase)).symm
    | arrived | updated _ _ | answered _ => rfl
  · rw [World.turn_shared]
    unfold submitCsat
    cases hphase : (world.locals process).phase with
    | updated other owner =>
      dsimp only
      rw [receivedOf_append, if_neg (hother other owner (.inr hphase)), List.append_nil]
    | arrived | unrated _ _ | answered _ => rfl

/-- A submission that the guard has let through takes its next step. -/
theorem stage_submitCsat (now : Instant) (located : db.Located process submitting)
    (isFor : submitting.IsFor ticket tenant) (stage : db.Stage ticket tenant submitting) :
    (submitCsat process db submitting now).1.Stage ticket tenant
      (submitCsat process db submitting now).2 := by
  have hnames : ∀ other owner, submitting.phase = .unrated other owner ∨
      submitting.phase = .updated other owner → other = ticket ∧ owner = tenant := by
    intro other owner hphase
    have hsame := (located other owner hphase).1.symm.trans isFor
    simpa using hsame
  unfold CsatDb.Stage at stage
  unfold submitCsat
  cases hphase : submitting.phase with
  | arrived =>
    rw [hphase] at stage
    exact stage.elim
  | unrated other owner =>
    obtain ⟨rfl, rfl⟩ := hnames other owner (.inl hphase)
    rw [hphase] at stage
    exact ⟨carries_rate now stage.1, stage.2⟩
  | updated other owner =>
    obtain ⟨rfl, rfl⟩ := hnames other owner (.inr hphase)
    rw [hphase] at stage
    refine ⟨trivial, stage.1, ?_⟩
    dsimp only
    rw [receivedOf_append, if_pos rfl, stage.2]
    rfl
  | answered response =>
    dsimp only
    rw [CsatDb.Stage, hphase]
    rw [hphase] at stage
    exact stage

/-- A submission for the ticket keeps its progress, if it does not read between the read and
the update of another. -/
theorem progress_isFor (located : world.shared.Located process (world.locals process))
    (isFor : (world.locals process).IsFor ticket tenant)
    (apart : ReadsApart ticket tenant world (process, now))
    (progress : Progress ticket tenant world) :
    Progress ticket tenant (world.turn submitCsat (process, now)) := by
  cases progress with
  | untouched blank received arrived =>
    have hturn : submitCsat process world.shared (world.locals process) now =
        (world.shared, { world.locals process with phase := .unrated ticket tenant }) := by
      unfold submitCsat
      rw [arrived process isFor]
      dsimp only
      rw [check_of_blank isFor blank]
    refine .owned process ?_ (fun other hother haccepted => ?_) ?_
    · rw [World.turn_locals_self, hturn]
      exact isFor
    · by_contra hne
      rw [World.turn_locals_of_ne world now hne] at hother haccepted
      rw [arrived other hother] at haccepted
      exact haccepted
    · rw [World.turn_locals_self, World.turn_shared, hturn]
      exact ⟨blank, received⟩
  | owned owner hfor only stage =>
    by_cases howner : owner = process
    · subst howner
      refine .owned owner ?_ (fun other hother haccepted => ?_) ?_
      · rw [World.turn_locals_self]
        unfold Submitting.IsFor
        rw [submitCsat_submission]
        exact isFor
      · by_contra hne
        rw [World.turn_locals_of_ne world now hne] at hother haccepted
        exact hne (only other hother haccepted)
      · rw [World.turn_locals_self, World.turn_shared]
        exact stage_submitCsat now located isFor stage
    · have hrejected : (submitCsat process world.shared (world.locals process) now).1 =
            world.shared ∧
          ¬ (submitCsat process world.shared (world.locals process) now).2.phase.Accepted := by
        have hnot : ¬ (world.locals process).phase.Accepted :=
          fun haccepted => howner (only process isFor haccepted).symm
        unfold submitCsat
        cases hphase : (world.locals process).phase with
        | arrived =>
          have hread := apart isFor hphase owner hfor
          have hcarries : world.shared.Carries ticket tenant
              (world.locals owner).submission := by
            unfold CsatDb.Stage at stage
            cases hstage : (world.locals owner).phase with
            | arrived =>
              rw [hstage] at stage
              exact stage.elim
            | unrated other tenant =>
              rw [hstage] at hread
              exact (hread trivial).elim
            | updated other tenant =>
              rw [hstage] at stage
              exact stage.1
            | answered response =>
              rw [hstage] at stage
              exact stage.2.1
          dsimp only
          rw [check_of_carries isFor hcarries]
          exact ⟨rfl, id⟩
        | unrated other tenant =>
          rw [hphase] at hnot
          exact (hnot trivial).elim
        | updated other tenant =>
          rw [hphase] at hnot
          exact (hnot trivial).elim
        | answered response =>
          dsimp only
          exact ⟨rfl, hnot⟩
      have hsame : (world.turn submitCsat (process, now)).locals owner = world.locals owner :=
        World.turn_locals_of_ne world now howner
      refine .owned owner ?_ (fun other hother haccepted => ?_) ?_
      · rw [hsame]
        exact hfor
      · by_cases hmoved : other = process
        · subst hmoved
          rw [World.turn_locals_self] at haccepted
          exact (hrejected.2 haccepted).elim
        · rw [World.turn_locals_of_ne world now hmoved] at hother haccepted
          exact only other hother haccepted
      · rw [hsame, World.turn_shared, hrejected.1]
        exact stage

/-! ## Whole runs -/

/-- What every reachable world satisfies. -/
structure Surveyed (ticket tenant : ℕ) (world : World CsatDb Submitting) : Prop where
  located : World.Keeps (fun _ => True) CsatDb.Located world
  progress : Progress ticket tenant world

theorem surveyed_turn (surveyed : Surveyed ticket tenant world)
    (apart : ReadsApart ticket tenant world event) :
    Surveyed ticket tenant (world.turn submitCsat event) := by
  refine ⟨sound_submitCsat.turn surveyed.located trivial, ?_⟩
  obtain ⟨process, now⟩ := event
  by_cases isFor : (world.locals process).IsFor ticket tenant
  · exact progress_isFor (surveyed.located.locals process) isFor apart surveyed.progress
  · exact progress_elsewhere now (surveyed.located.locals process) isFor surveyed.progress

theorem surveyed_of_unsurveyed (start : Unsurveyed ticket tenant world) :
    Surveyed ticket tenant world where
  located :=
    { shared := trivial
      locals := by
        intro process other owner hphase
        rw [start.arrived process] at hphase
        rcases hphase with hphase | hphase <;> cases hphase }
  progress := .untouched start.blank start.received fun process _ => start.arrived process

theorem CsatPhase.Accepted.isSuccess (accepted : phase.Accepted)
    (rest : phase = .arrived ∨ phase.IsAnswered) : phase.IsSuccess := by
  cases phase with
  | arrived => exact accepted.elim
  | unrated _ _ | updated _ _ =>
    rcases rest with hrest | hrest
    · cases hrest
    · exact hrest.elim
  | answered response =>
    cases response with
    | ok detail rating => trivial
    | badRequest detail | notFound detail | conflict detail => exact accepted.elim

theorem CsatPhase.IsSuccess.accepted (success : phase.IsSuccess) : phase.Accepted := by
  cases phase with
  | arrived | unrated _ _ | updated _ _ => exact success.elim
  | answered response =>
    cases response with
    | ok detail rating => trivial
    | badRequest detail | notFound detail | conflict detail => exact success.elim

theorem ratedOnce_of_progress (progress : Progress ticket tenant world) :
    RatedOnce ticket tenant world := by
  cases progress with
  | untouched blank received arrived =>
    have hnone : ∀ process, (world.locals process).IsFor ticket tenant →
        ¬ (world.locals process).phase.IsSuccess ∧
          ¬ (world.locals process).phase.IsAnswered := by
      intro process isFor
      rw [arrived process isFor]
      exact ⟨id, id⟩
    exact
      { unique := fun first _ hfor success _ _ => ((hnone first hfor).1 success).elim
        stored := fun process hfor success => ((hnone process hfor).1 success).elim
        exists_success := fun ⟨process, hfor, answered⟩ _ =>
          ((hnone process hfor).2 answered).elim }
  | owned owner isFor only stage =>
    refine ⟨fun first second hfirst success hsecond success' => ?_, fun process hfor success => ?_,
      fun _ rest => ?_⟩
    · rw [only first hfirst success.accepted, only second hsecond success'.accepted]
    · have hsame := only process hfor success.accepted
      subst hsame
      unfold CsatDb.Stage at stage
      cases hphase : (world.locals process).phase with
      | arrived | unrated _ _ | updated _ _ =>
        rw [hphase] at success
        exact success.elim
      | answered response =>
        rw [hphase] at stage
        exact stage.2
    · refine ⟨owner, isFor, ?_⟩
      unfold CsatDb.Stage at stage
      cases hphase : (world.locals owner).phase with
      | arrived =>
        rw [hphase] at stage
        exact stage.elim
      | unrated _ _ | updated _ _ =>
        have hrest := rest owner isFor
        rw [hphase] at hrest
        rcases hrest with hrest | hrest
        · cases hrest
        · exact hrest.elim
      | answered response =>
        rw [hphase] at stage
        exact stage.1

theorem accepted_turn (event : ℕ × Instant) (accepted : (world.locals process).IsFor ticket tenant ∧
      (world.locals process).phase.Accepted) :
    ((world.turn submitCsat event).locals process).IsFor ticket tenant ∧
      ((world.turn submitCsat event).locals process).phase.Accepted := by
  obtain ⟨mover, now⟩ := event
  by_cases hmover : process = mover
  · subst hmover
    rw [World.turn_locals_self]
    refine ⟨?_, ?_⟩
    · unfold Submitting.IsFor
      rw [submitCsat_submission]
      exact accepted.1
    · unfold submitCsat
      cases hphase : (world.locals process).phase with
      | arrived =>
        rw [hphase] at accepted
        exact accepted.2.elim
      | unrated _ _ | updated _ _ => trivial
      | answered response => exact accepted.2
  · rw [World.turn_locals_of_ne world now hmover]
    exact accepted

theorem accepted_run (events : List (ℕ × Instant))
    (accepted : (world.locals process).IsFor ticket tenant ∧
      (world.locals process).phase.Accepted) :
    ((run (World.turn submitCsat) world events).locals process).IsFor ticket tenant ∧
      ((run (World.turn submitCsat) world events).locals process).phase.Accepted := by
  induction events generalizing world with
  | nil => exact accepted
  | cons event rest ih => exact ih (accepted_turn event accepted)

/-- Two submissions that both read the ticket unrated are both answered with success. -/
theorem readsApart_of_ratedOnce {rest : List (ℕ × Instant)}
    (surveyed : Surveyed ticket tenant world) (finished : ∀ process,
      ((run (World.turn submitCsat) (world.turn submitCsat event) rest).locals process).IsFor
        ticket tenant →
      ((run (World.turn submitCsat) (world.turn submitCsat event) rest).locals process).phase =
          .arrived ∨
        ((run (World.turn submitCsat) (world.turn submitCsat event) rest).locals
          process).phase.IsAnswered) (once : RatedOnce ticket tenant
      (run (World.turn submitCsat) (world.turn submitCsat event) rest)) :
    ReadsApart ticket tenant world event := by
  obtain ⟨process, now⟩ := event
  intro isFor arrived other hother unrated
  have hne : other ≠ process := by
    rintro rfl
    rw [arrived] at unrated
    exact unrated
  have haccepted : (world.locals other).phase.Accepted := by
    cases hphase : (world.locals other).phase with
    | unrated _ _ => trivial
    | arrived | updated _ _ | answered _ =>
      rw [hphase] at unrated
      exact unrated.elim
  have hblank : world.shared.Blank ticket tenant := by
    cases surveyed.progress with
    | untouched blank received arrived => exact blank
    | owned owner hfor only stage =>
      rw [← only other hother haccepted] at stage
      unfold CsatDb.Stage at stage
      cases hphase : (world.locals other).phase with
      | unrated _ _ =>
        rw [hphase] at stage
        exact stage.1
      | arrived | updated _ _ | answered _ =>
        rw [hphase] at unrated
        exact unrated.elim
  have hfirst := accepted_run rest (accepted_turn (process, now) ⟨hother, haccepted⟩)
  have hsecond : ((world.turn submitCsat (process, now)).locals process).IsFor ticket tenant ∧
      ((world.turn submitCsat (process, now)).locals process).phase.Accepted := by
    rw [World.turn_locals_self]
    refine ⟨?_, ?_⟩
    · unfold Submitting.IsFor
      rw [submitCsat_submission]
      exact isFor
    · unfold submitCsat
      rw [arrived]
      dsimp only
      rw [check_of_blank isFor hblank]
      trivial
  have hsecond := accepted_run rest hsecond
  exact hne (once.unique other process hfirst.1 (hfirst.2.isSuccess (finished other hfirst.1))
    hsecond.1 (hsecond.2.isSuccess (finished process hsecond.1)))

/--
If no submission reads the ticket between the read and the update of another that found it
unrated, then one is answered with success, in every state of the run its rating is the
stored one and its entry the only one.  Among the runs in which every submission is answered,
these are all that have this property.
-/
theorem ratedOnce_iff_readsApart (world : World CsatDb Submitting)
    (start : Unsurveyed ticket tenant world) (events : List (ℕ × Instant)) :
    (Every (World.turn submitCsat) (ReadsApart ticket tenant) world events →
      Always (World.turn submitCsat) (RatedOnce ticket tenant) world events) ∧
    ((∀ process,
        ((run (World.turn submitCsat) world events).locals process).IsFor ticket tenant →
        ((run (World.turn submitCsat) world events).locals process).phase = .arrived ∨
          ((run (World.turn submitCsat) world events).locals process).phase.IsAnswered) →
      Always (World.turn submitCsat) (RatedOnce ticket tenant) world events →
      Every (World.turn submitCsat) (ReadsApart ticket tenant) world events) := by
  have surveyed := surveyed_of_unsurveyed start
  clear start
  constructor
  · exact always_of_invariant (Surveyed ticket tenant)
      (fun _ surveyed => ratedOnce_of_progress surveyed.progress)
      (fun _ _ => surveyed_turn) surveyed events
  · intro finished always
    induction events generalizing world with
    | nil => trivial
    | cons event rest ih =>
      have apart := readsApart_of_ratedOnce surveyed finished always.2.finish
      exact ⟨apart, ih _ (surveyed_turn surveyed apart) finished always.2⟩

/-- A ticket and its customer's answers: the first is five, every other one is one. -/
def surveyOpening : World CsatDb Submitting where
  shared := { rows := fun _ => some { tenant := 1, updatedAt := 0 } }
  locals process :=
    { submission :=
        { payload := some { t := some 7, n := some 1 }
          rating := if process = 0 then 5 else 1
          rating_bounds := by split <;> decide } }

theorem unsurveyed_surveyOpening : Unsurveyed 7 1 surveyOpening where
  blank := ⟨_, rfl, rfl, rfl⟩
  received := rfl
  arrived _ := rfl

/-- An answer that comes after the first has been dealt with. -/
theorem ratedOnce_iff_readsApart_oneByOne :
    Always (World.turn submitCsat) (RatedOnce 7 1) surveyOpening
      [(0, 1), (0, 2), (0, 3), (1, 4)] := by
  apply (ratedOnce_iff_readsApart surveyOpening unsurveyed_surveyOpening _).1
  refine ⟨fun _ _ other _ unrated => unrated, fun _ harrived => ?_, fun _ harrived => ?_,
    fun _ _ other _ unrated => ?_, trivial⟩
  · cases harrived
  · cases harrived
  · by_cases hother : other = 0
    · subst hother
      exact unrated
    · rw [World.turn_locals_of_ne _ _ hother, World.turn_locals_of_ne _ _ hother,
        World.turn_locals_of_ne _ _ hother] at unrated
      exact unrated

/-- Two answers that are both read before either is stored are both thanked for. -/
theorem not_ratedOnce_crossed :
    ¬ ∀ (world : World CsatDb Submitting), Unsurveyed 7 1 world →
      ∀ events, Always (World.turn submitCsat) (RatedOnce 7 1) world events := by
  intro h
  have once := (h surveyOpening unsurveyed_surveyOpening
    [(0, 1), (1, 2), (0, 3), (1, 4), (0, 5), (1, 6)]).finish
  have hsame := once.unique 0 1 rfl trivial rfl trivial
  cases hsame

end Kanzan.Tickets

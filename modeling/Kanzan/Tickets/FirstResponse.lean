import Kanzan.Support.Processes
import Kanzan.Tickets.Edits

/-!
# Interleavings around the first response

Any number of calls of `record_first_response` on one ticket, and of scans of it.  Every
read and every write is a turn of its own, and every process works on the instance it has
loaded, however old that is; the two `UPDATE`s with their conditions are atomic.
-/

namespace Kanzan.Tickets.FirstResponse

open Sla Support

/-! ## The processes -/

/-- A matched `UPDATE` of `first_responded_at`: by which call, for whom, and with what. -/
structure Stamp where
  call : ℕ
  actor : Option ℕ
  respondedAt : Instant
  deriving DecidableEq, Repr

/-- The store, the signals sent (`responded_at` and `due_at`), and the history of stamps. -/
structure Responses where
  db : Db
  signals : List (Option Instant × Option Instant) := []
  stamps : List Stamp := []

/-- How far a process has come; all but the last are stages of `record_first_response`. -/
inductive Call where
  | idle
  | loaded (actor : Option ℕ) (ticket : Ticket)
  | timed (actor : Option ℕ) (ticket : Ticket) (now : Instant)
  | stamped (actor : Option ℕ) (ticket : Ticket)
  | refreshed (actor : Option ℕ) (ticket : Ticket)
  | logged (actor : Option ℕ) (ticket : Ticket)
  | late (actor : Option ℕ) (ticket : Ticket)
  | flagged (actor : Option ℕ) (ticket : Ticket)
  | returned (actor : Option ℕ)
  | scanning (ticket : Ticket)

inductive Action where
  /-- A caller loads the ticket. -/
  | load (actor : Option ℕ)
  /-- The call goes on, at the present time. -/
  | proceed (now : Instant)
  /-- A scan loads the ticket. -/
  | scan
  /-- It raises its breach flags. -/
  | flag (clock : Clock) (policy : SLAPolicy) (now : Instant)
  /-- It executes its rules. -/
  | check (clock : Clock) (policy : SLAPolicy) (now : Instant)

/-- `filter(pk=id, first_responded_at__isnull=True).update(...)`, if it matches. -/
def stampFirstResponse (db : Db) (id : ℕ) (now : Instant) : Option Db :=
  if (db.tickets id).any fun row => row.firstRespondedAt.isNone then
    some (db.updateWhere id fun row => { row with firstRespondedAt := some now, updatedAt := now })
  else none

/-- `filter(pk=id, sla_response_breached=False).update(...)`, if it matches. -/
def flagResponseBreach (db : Db) (id : ℕ) (now : Instant) : Option Db :=
  if (db.tickets id).any fun row => !row.slaResponseBreached then
    some (db.updateWhere id fun row => { row with slaResponseBreached := true, updatedAt := now })
  else none

/-- `ticket.refresh_from_db(fields=[...])` after the stamp. -/
def refresh (row ticket : Ticket) : Ticket :=
  { ticket with
    firstRespondedAt := row.firstRespondedAt
    slaFirstResponseDue := row.slaFirstResponseDue
    slaResponseBreached := row.slaResponseBreached
    updatedAt := row.updatedAt }

def isLate (ticket : Ticket) : Bool :=
  match ticket.firstRespondedAt, ticket.slaFirstResponseDue with
  | some respondedAt, some due => decide (due < respondedAt)
  | _, _ => false

section Turns

variable (ws : Workspace) (id : ℕ)

def proceed (call : ℕ) (now : Instant) (state : Responses) : Call → Responses × Call
  | .loaded actor ticket =>
    if ticket.firstRespondedAt.isSome then (state, .returned actor)
    else if actor = some ticket.createdBy then (state, .returned actor)
    else (state, .timed actor ticket now)
  | .timed actor ticket respondedAt =>
    match stampFirstResponse state.db id respondedAt with
    | none => (state, .returned actor)
    | some db =>
      ({ state with db, stamps := state.stamps ++ [{ call, actor, respondedAt }] },
        .stamped actor ticket)
  | .stamped actor ticket =>
    match state.db.tickets id with
    | none => (state, .returned actor)
    | some row => (state, .refreshed actor (refresh row ticket))
  | .refreshed actor ticket =>
    ({ state with db := state.db.createTicketActivity id .firstResponse }, .logged actor ticket)
  | .logged actor ticket =>
    -- `_check_first_response_breach`
    if !ticket.slaResponseBreached && isLate ticket then (state, .late actor ticket)
    else (state, .returned actor)
  | .late actor ticket =>
    match flagResponseBreach state.db id now with
    | none => (state, .returned actor)
    | some db => ({ state with db }, .flagged actor ticket)
  | .flagged actor ticket =>
    ({ state with
        signals := state.signals ++ [(ticket.firstRespondedAt, ticket.slaFirstResponseDue)] },
      .returned actor)
  | stage => (state, stage)

def scanOn (work : Session → Session) (state : Responses) : Call → Responses × Call
  | .scanning ticket =>
    let s := work { db := state.db, id, ticket }
    ({ state with db := s.db }, .scanning s.ticket)
  | stage => (state, stage)

def act (process : ℕ) (state : Responses) (stage : Call) : Action → Responses × Call
  | .load actor =>
    match stage, state.db.tickets id with
    | .idle, some row => (state, .loaded actor row)
    | _, _ => (state, stage)
  | .proceed now => proceed id process now state stage
  | .scan =>
    match stage, state.db.tickets id with
    | .idle, some row => (state, .scanning row)
    | _, _ => (state, stage)
  | .flag clock policy now => scanOn id (flagBreaches ws clock policy now) state stage
  | .check clock policy now => scanOn id (checkEscalationRules ws clock policy now) state stage

end Turns

def responseEntries (db : Db) (id : ℕ) : ℕ :=
  (db.activities.filter fun activity =>
    activity.ticket == id && activity.event == .firstResponse).length

/-! ## What the other processes see -/

/-- The columns around a first response are as they were; a breach flag may have been raised. -/
structure Steady (row row' : Ticket) : Prop where
  createdBy : row'.createdBy = row.createdBy
  status : row'.status = row.status
  due : row'.slaFirstResponseDue = row.slaFirstResponseDue
  firstRespondedAt : row'.firstRespondedAt = row.firstRespondedAt
  breached : row.slaResponseBreached = true → row'.slaResponseBreached = true

/-- The store of a ticket is steady, and no first response was entered. -/
structure SteadyDb (id : ℕ) (db db' : Db) : Prop where
  row : ∀ row, db.tickets id = some row → ∃ row', db'.tickets id = some row' ∧ Steady row row'
  entries : responseEntries db' id = responseEntries db id

theorem Steady.refl (row : Ticket) : Steady row row := ⟨rfl, rfl, rfl, rfl, fun h => h⟩

theorem Steady.trans {a b c : Ticket} (first : Steady a b) (second : Steady b c) : Steady a c where
  createdBy := second.createdBy.trans first.createdBy
  status := second.status.trans first.status
  due := second.due.trans first.due
  firstRespondedAt := second.firstRespondedAt.trans first.firstRespondedAt
  breached h := second.breached (first.breached h)

variable {stage : Call} {process : ℕ} {row' ticket : Ticket} {stamp : Stamp} {actor : Option ℕ}

theorem Steady.isLate {row : Ticket} (steady : Steady row row') : isLate row' = isLate row := by
  rw [FirstResponse.isLate, steady.firstRespondedAt, steady.due]
  rfl

theorem SteadyDb.refl (id : ℕ) (db : Db) : SteadyDb id db db :=
  ⟨fun row hrow => ⟨row, hrow, Steady.refl row⟩, rfl⟩

theorem SteadyDb.trans {id : ℕ} {a b c : Db} (first : SteadyDb id a b) (second : SteadyDb id b c) :
    SteadyDb id a c where
  row row hrow := by
    obtain ⟨between, hbetween, hfirst⟩ := first.row row hrow
    obtain ⟨last, hlast, hsecond⟩ := second.row between hbetween
    exact ⟨last, hlast, hfirst.trans hsecond⟩
  entries := second.entries.trans first.entries

theorem responseEntries_append (db : Db) (id : ℕ) {activity : TicketActivity}
    (hother : activity.event ≠ .firstResponse) :
    responseEntries { db with activities := db.activities ++ [activity] } id =
      responseEntries db id := by
  simp [responseEntries, hother]

theorem responseEntries_log (db : Db) (id : ℕ) :
    responseEntries (db.createTicketActivity id .firstResponse) id =
      responseEntries db id + 1 := by
  simp [responseEntries, Db.createTicketActivity]

section Scan

variable {ws : Workspace} {clock : Clock} {policy : SLAPolicy} {now : Instant} {s t : Session}

/-- What a scan keeps of the ticket it works on. -/
structure Harmless (s t : Session) : Prop where
  id : t.id = s.id
  status : t.ticket.status = s.ticket.status
  settled : Settled t
  db : SteadyDb s.id s.db t.db

theorem Harmless.refl (settled : Settled s) : Harmless s s := ⟨rfl, rfl, settled, .refl _ _⟩

theorem Harmless.trans {u : Session} (first : Harmless s t) (second : Harmless t u) :
    Harmless s u where
  id := second.id.trans first.id
  status := second.status.trans first.status
  settled := second.settled
  db := first.db.trans (first.id ▸ second.db)

theorem Harmless.log (harmless : Harmless s t) {event : ActivityEvent}
    (hother : event ≠ .firstResponse) : Harmless s (t.log event) where
  id := harmless.id
  status := harmless.status
  settled := harmless.settled
  db := ⟨harmless.db.row, (responseEntries_append t.db s.id hother).trans harmless.db.entries⟩

theorem Harmless.fireRule (harmless : Harmless s t) (rule : EscalationRule) :
    Harmless s (t.fireRule rule) where
  id := harmless.id
  status := harmless.status
  settled := harmless.settled
  db := by
    have hother : ActivityEvent.escalated ≠ .firstResponse := by decide
    exact ⟨harmless.db.row, (responseEntries_append t.db s.id hother).trans harmless.db.entries⟩

/-- A save that leaves these columns alone, or raises the flag, is harmless. -/
theorem harmless_save (settled : Settled s) {columns : List Column} (edit : Ticket → Ticket)
    (hstatus : (edit s.ticket).status = s.ticket.status)
    (hbreached : .slaResponseBreached ∈ columns → (edit s.ticket).slaResponseBreached = true)
    (hdue : .slaFirstResponseDue ∉ columns) :
    Harmless s (save ws clock columns (s.modify edit)) := by
  obtain ⟨row, hrow, hsettled⟩ := settled
  have hsame : row.status = (edit s.ticket).status := hsettled.trans hstatus.symm
  have hautoNow : ∀ ticket : Ticket, (ticket.autoNow columns clock.autoNow).status =
      ticket.status := fun ticket => autoNow_status ticket columns clock.autoNow
  have hflag : ∀ ticket : Ticket, (ticket.autoNow columns clock.autoNow).slaResponseBreached =
      ticket.slaResponseBreached := by
    intro ticket
    unfold Ticket.autoNow
    split <;> rfl
  rw [save_of_same ⟨row, hrow, hsettled⟩ hstatus, write_of_same hrow hsame]
  refine ⟨rfl, (hautoNow _).trans hstatus, ⟨_, Function.update_self .., ?_⟩, ?_, rfl⟩
  · simp only [Ticket.persist]
    split
    · rfl
    · exact hsame.trans (hautoNow _).symm
  · intro stored hstored
    rw [hrow, Option.some.injEq] at hstored
    subst hstored
    refine ⟨_, Function.update_self .., rfl, ?_, ?_, rfl, ?_⟩
    · simp only [Ticket.persist, hautoNow, ← hsame, ite_self]
    · simp only [Ticket.persist, hdue, if_false]
    · intro hraised
      simp only [Ticket.persist]
      split
      · rename_i hlisted
        rw [hflag]
        exact hbreached hlisted
      · exact hraised

theorem flagBreaches_harmless (settled : Settled s) :
    Harmless s (flagBreaches ws clock policy now s) := by
  unfold flagBreaches
  dsimp only
  generalize responseBreached policy (s.effectiveElapsed ws policy now) s.ticket = response
  generalize resolutionBreached policy (s.effectiveElapsed ws policy now) s.ticket = resolution
  have hsaved : ∀ saved, (.slaResponseBreached ∈ saved → response = true) →
      .slaFirstResponseDue ∉ saved → Harmless s (save ws clock saved (s.modify fun ticket =>
        { ticket with
          slaResponseBreached := ticket.slaResponseBreached || response
          slaResolutionBreached := ticket.slaResolutionBreached || resolution })) := by
    intro saved hresponse hdue
    exact harmless_save settled _ rfl (fun hlisted => by simp [hresponse hlisted]) hdue
  cases response <;> cases resolution <;> simp only [Bool.false_eq_true, if_true, if_false,
    List.append_nil, List.nil_append, List.cons_append, reduceCtorEq]
  · exact .refl settled
  · exact (hsaved [.slaResolutionBreached, .updatedAt] (by decide) (by decide)).log (by decide)
  · exact (hsaved [.slaResponseBreached, .updatedAt] (fun _ => rfl) (by decide)).log (by decide)
  · exact ((hsaved [.slaResponseBreached, .slaResolutionBreached, .updatedAt] (fun _ => rfl)
      (by decide)).log (by decide)).log (by decide)

theorem performAction_harmless (settled : Settled s) (rule : EscalationRule) :
    Harmless s (performAction ws clock now rule s) := by
  unfold performAction
  split
  · split
    · exact .refl settled
    · exact harmless_save settled _ rfl (fun hlisted => by simp at hlisted) (by decide)
  · exact .refl settled
  · split
    · exact .refl settled
    · exact harmless_save settled _ rfl (fun hlisted => by simp at hlisted) (by decide)

theorem checkEscalationRules_harmless (settled : Settled s) :
    Harmless s (checkEscalationRules ws clock policy now s) := by
  refine List.foldlRecOn _ _ (Harmless.refl settled) ?_
  intro t harmless rule _
  unfold checkRule
  split
  · exact harmless
  split
  · exact (harmless.trans (performAction_harmless harmless.settled rule)).fireRule rule
  · exact harmless

end Scan

/-! ## The invariant and the promises of the calls -/

def Responses.StampedBy (state : Responses) (call : ℕ) : Prop :=
  ∃ stamp ∈ state.stamps, stamp.call = call

section Promises

variable (id creator : ℕ) (status : TicketStatus) (before : ℕ)

/-- At most one stamp, not by the creator, and the row shows it. -/
structure Sane (state : Responses) : Prop where
  row : ∃ row, state.db.tickets id = some row ∧ row.createdBy = creator ∧ row.status = status ∧
    row.firstRespondedAt = state.stamps.head?.map Stamp.respondedAt
  once : state.stamps.length ≤ 1
  actor : ∀ stamp ∈ state.stamps, stamp.actor ≠ some creator
  untouched : state.stamps = [] → responseEntries state.db id = before ∧ state.signals = []

/-- The call that has stamped, after it wrote so many entries and before it sent a signal. -/
structure Writing (call written : ℕ) (state : Responses) : Prop where
  stamped : state.StampedBy call
  entries : responseEntries state.db id = before + written
  signals : state.signals = []

/-- An instance read after the stamp. -/
structure Current (ticket row : Ticket) : Prop where
  firstRespondedAt : ticket.firstRespondedAt = row.firstRespondedAt
  due : ticket.slaFirstResponseDue = row.slaFirstResponseDue
  breached : ticket.slaResponseBreached = true → row.slaResponseBreached = true

def Flagged (row : Ticket) : Prop := isLate row = true → row.slaResponseBreached = true

def Responses.Row (state : Responses) (P : Ticket → Prop) : Prop :=
  ∀ row, state.db.tickets id = some row → P row

/-- What a process may rely on at each stage, whatever the others do. -/
def Promise (call : ℕ) (state : Responses) : Call → Prop
  | .idle => ¬ state.StampedBy call
  | .loaded _ ticket => ¬ state.StampedBy call ∧ ticket.createdBy = creator ∧
      (ticket.firstRespondedAt.isSome = true → state.stamps ≠ [])
  | .timed actor _ _ => ¬ state.StampedBy call ∧ actor ≠ some creator
  | .stamped _ _ => Writing id before call 0 state
  | .refreshed _ ticket => Writing id before call 0 state ∧ state.Row id (Current ticket)
  | .logged _ ticket => Writing id before call 1 state ∧ state.Row id (Current ticket)
  | .late _ _ => Writing id before call 1 state
  | .flagged _ _ => Writing id before call 1 state ∧ state.Row id Flagged
  | .returned actor =>
    (state.StampedBy call → responseEntries state.db id = before + 1 ∧
      state.signals.length ≤ 1 ∧ state.Row id Flagged) ∧
    (actor ≠ some creator → state.stamps ≠ [])
  | .scanning ticket => ¬ state.StampedBy call ∧ ticket.status = status

variable {id creator status before} {state state' : Responses} {db : Db} {call : ℕ}
variable {row : Ticket}

theorem Current.steady (current : Current ticket row) (steady : Steady row row') :
    Current ticket row' where
  firstRespondedAt := current.firstRespondedAt.trans steady.firstRespondedAt.symm
  due := current.due.trans steady.due.symm
  breached h := steady.breached (current.breached h)

theorem Flagged.steady (flagged : Flagged row) (steady : Steady row row') : Flagged row' := by
  intro hlate
  rw [steady.isLate] at hlate
  exact steady.breached (flagged hlate)

theorem Responses.Row.steady {P : Ticket → Prop} (holds : state.Row id P)
    (hsome : ∃ row, state.db.tickets id = some row) (steady : SteadyDb id state.db db)
    (hkeeps : ∀ row row', P row → Steady row row' → P row') :
    Responses.Row id { state with db } P := by
  intro row' hrow'
  obtain ⟨row, hrow⟩ := hsome
  obtain ⟨after, hafter, hsteady⟩ := steady.row row hrow
  dsimp only at hrow'
  rw [hafter, Option.some.injEq] at hrow'
  exact hrow' ▸ hkeeps row after (holds row hrow) hsteady

theorem Writing.steady {written : ℕ} (writing : Writing id before call written state)
    (steady : SteadyDb id state.db db) : Writing id before call written { state with db } where
  stamped := writing.stamped
  entries := steady.entries.trans writing.entries
  signals := writing.signals

theorem Sane.steady (sane : Sane id creator status before state)
    (steady : SteadyDb id state.db db) : Sane id creator status before { state with db } where
  row := by
    obtain ⟨row, hrow, hcreator, hstatus, hfirst⟩ := sane.row
    obtain ⟨row', hrow', hsteady⟩ := steady.row row hrow
    exact ⟨row', hrow', hsteady.createdBy.trans hcreator, hsteady.status.trans hstatus,
      hsteady.firstRespondedAt.trans hfirst⟩
  once := sane.once
  actor := sane.actor
  untouched hnone := by
    obtain ⟨hentries, hsignals⟩ := sane.untouched hnone
    exact ⟨steady.entries.trans hentries, hsignals⟩

theorem promise_steady (sane : Sane id creator status before state)
    (promise : Promise id creator status before call state stage) (steady : SteadyDb id state.db db)
    :
    Promise id creator status before call { state with db } stage := by
  have hsome : ∃ row, state.db.tickets id = some row := by
    obtain ⟨row, hrow, -⟩ := sane.row
    exact ⟨row, hrow⟩
  cases stage with
  | idle => exact promise
  | loaded actor ticket => exact promise
  | timed actor ticket now => exact promise
  | stamped actor ticket => exact Writing.steady promise steady
  | refreshed actor ticket =>
    exact ⟨promise.1.steady steady, promise.2.steady hsome steady fun _ _ => Current.steady⟩
  | logged actor ticket =>
    exact ⟨promise.1.steady steady, promise.2.steady hsome steady fun _ _ => Current.steady⟩
  | late actor ticket => exact Writing.steady promise steady
  | flagged actor ticket =>
    exact ⟨promise.1.steady steady, promise.2.steady hsome steady fun _ _ => Flagged.steady⟩
  | returned actor =>
    refine ⟨fun hstamped => ?_, promise.2⟩
    obtain ⟨hentries, hsignals, hflagged⟩ := promise.1 hstamped
    exact ⟨steady.entries.trans hentries, hsignals,
      hflagged.steady hsome steady fun _ _ => Flagged.steady⟩
  | scanning ticket => exact promise

theorem promise_other (promise : Promise id creator status before call state stage)
    (hnot : ¬ state.StampedBy call) (hnot' : ¬ state'.StampedBy call)
    (hsome : state.stamps ≠ [] → state'.stamps ≠ []) :
    Promise id creator status before call state' stage := by
  cases stage with
  | idle => exact hnot'
  | loaded actor ticket => exact ⟨hnot', promise.2.1, fun h => hsome (promise.2.2 h)⟩
  | timed actor ticket now => exact ⟨hnot', promise.2⟩
  | stamped actor ticket => exact absurd (Writing.stamped promise) hnot
  | refreshed actor ticket => exact absurd promise.1.stamped hnot
  | logged actor ticket => exact absurd promise.1.stamped hnot
  | late actor ticket => exact absurd (Writing.stamped promise) hnot
  | flagged actor ticket => exact absurd promise.1.stamped hnot
  | returned actor => exact ⟨fun hstamped => absurd hstamped hnot', fun h => hsome (promise.2 h)⟩
  | scanning ticket => exact ⟨hnot', promise.2⟩

/-! ## One turn -/

/-- What a turn does to the invariant, to its own promise and to what the others see. -/
structure Outcome (id creator : ℕ) (status : TicketStatus) (before process : ℕ) (state : Responses)
    (after : Responses × Call) : Prop where
  sane : Sane id creator status before after.1
  promise : Promise id creator status before process after.1 after.2
  stamps : state.stamps ⊆ after.1.stamps
  seen : (∃ db, after.1 = { state with db } ∧ SteadyDb id state.db db) ∨
    after.1.StampedBy process

theorem Outcome.stay (sane : Sane id creator status before state)
    (promise : Promise id creator status before process state stage) :
    Outcome id creator status before process state (state, stage) where
  sane := sane
  promise := promise
  stamps := List.Subset.refl _
  seen := .inl ⟨state.db, rfl, .refl id state.db⟩

theorem stampedBy_ne_nil (stamped : state.StampedBy process) : state.stamps ≠ [] := by
  obtain ⟨stamp, hmem, -⟩ := stamped
  exact List.ne_nil_of_mem hmem

theorem Sane.eq_singleton (sane : Sane id creator status before state) (hmem : stamp ∈ state.stamps)
    : state.stamps = [stamp] := by
  have honce := sane.once
  cases hstamps : state.stamps with
  | nil => exact absurd hstamps (List.ne_nil_of_mem hmem)
  | cons first rest =>
    rw [hstamps, List.length_cons] at honce
    have hrest : rest = [] := List.length_eq_zero_iff.mp (by omega)
    rw [hstamps, hrest] at hmem
    rw [hrest, List.mem_singleton.mp hmem]

theorem Sane.unique (sane : Sane id creator status before state) {first second : ℕ}
    (hfirst : state.StampedBy first) (hsecond : state.StampedBy second) : first = second := by
  obtain ⟨a, ha, rfl⟩ := hfirst
  obtain ⟨b, hb, rfl⟩ := hsecond
  rw [sane.eq_singleton ha] at hb
  rw [List.mem_singleton.mp hb]

theorem updateWhere_self (hrow : db.tickets id = some row) (edit : Ticket → Ticket) :
    (db.updateWhere id edit).tickets id = some (edit row) := by
  simp [Db.updateWhere, hrow]

/-- The `UPDATE` matches only a ticket that nobody has stamped. -/
theorem stamp_outcome (sane : Sane id creator status before state) {now : Instant}
    (promise : Promise id creator status before process state (.timed actor ticket now)) :
    Outcome id creator status before process state
      (proceed id process now state (.timed actor ticket now)) := by
  obtain ⟨hnot, hactor⟩ := promise
  obtain ⟨row, hrow, hcreator, hstatus, hfirst⟩ := sane.row
  unfold proceed stampFirstResponse
  rw [hrow, Option.any_some]
  cases hstamps : state.stamps with
  | cons stamp rest =>
    rw [hstamps, List.head?_cons, Option.map_some] at hfirst
    simp only [hfirst, Option.isNone_some, Bool.false_eq_true, if_false]
    refine .stay sane ⟨fun stamped => absurd stamped hnot, fun _ => ?_⟩
    rw [hstamps]
    exact List.cons_ne_nil stamp rest
  | nil =>
    rw [hstamps, List.head?_nil, Option.map_none] at hfirst
    obtain ⟨hentries, hsignals⟩ := sane.untouched hstamps
    simp only [hfirst, Option.isNone_none, if_true, List.nil_append]
    have hstamped : ∀ db : Db, Responses.StampedBy
        { state with db, stamps := [{ call := process, actor, respondedAt := now }] } process :=
      fun db => ⟨_, List.mem_singleton_self _, rfl⟩
    refine ⟨⟨⟨_, updateWhere_self hrow _, hcreator, hstatus, rfl⟩, le_rfl, ?_, ?_⟩,
      ⟨hstamped _, hentries, hsignals⟩, ?_, .inr (hstamped _)⟩
    · intro stamp hmem
      rw [List.mem_singleton.mp hmem]
      exact hactor
    · intro hnone
      cases hnone
    · rw [hstamps]
      exact List.nil_subset _

theorem flag_outcome (sane : Sane id creator status before state) (now : Instant)
    (writing : Writing id before process 1 state) :
    Outcome id creator status before process state
      (proceed id process now state (.late actor ticket)) := by
  obtain ⟨row, hrow, -⟩ := sane.row
  unfold proceed flagResponseBreach
  rw [hrow, Option.any_some]
  cases hbreached : row.slaResponseBreached with
  | true =>
    refine .stay sane ⟨fun _ => ⟨writing.entries, ?_, ?_⟩, fun _ => stampedBy_ne_nil writing.stamped⟩
    · rw [writing.signals]
      exact Nat.zero_le 1
    · intro other hother _
      rw [hrow, Option.some.injEq] at hother
      exact hother ▸ hbreached
  | false =>
    have hsteady : SteadyDb id state.db (state.db.updateWhere id fun row =>
        { row with slaResponseBreached := true, updatedAt := now }) := by
      refine ⟨fun other hother => ?_, rfl⟩
      exact ⟨_, updateWhere_self hother _, rfl, rfl, rfl, rfl, fun _ => rfl⟩
    simp only [Bool.not_false, if_true]
    refine ⟨sane.steady hsteady, ⟨writing.steady hsteady, ?_⟩, List.Subset.refl _,
      .inl ⟨_, rfl, hsteady⟩⟩
    intro other hother _
    have hupdated := updateWhere_self hrow fun row =>
      { row with slaResponseBreached := true, updatedAt := now }
    dsimp only at hother
    rw [hupdated, Option.some.injEq] at hother
    rw [← hother]

theorem proceed_outcome (sane : Sane id creator status before state) (now : Instant)
    (promise : Promise id creator status before process state stage) :
    Outcome id creator status before process state (proceed id process now state stage) := by
  obtain ⟨row, hrow, -⟩ := sane.row
  cases stage with
  | idle => exact .stay sane promise
  | loaded actor ticket =>
    obtain ⟨hnot, hcreator, hseen⟩ := promise
    have hunstamped : ∀ {P : Prop}, state.StampedBy process → P :=
      fun stamped => absurd stamped hnot
    simp only [proceed]
    split
    · rename_i hresponded
      exact .stay sane ⟨hunstamped, fun _ => hseen hresponded⟩
    split
    · rename_i hactor
      exact .stay sane ⟨hunstamped, fun hne => absurd (hcreator ▸ hactor) hne⟩
    · rename_i hactor
      exact .stay sane ⟨hnot, hcreator ▸ hactor⟩
  | timed actor ticket respondedAt =>
    have houtcome := stamp_outcome sane promise
    exact houtcome
  | stamped actor ticket =>
    unfold proceed
    rw [hrow]
    refine .stay sane ⟨promise, fun other hother => ?_⟩
    rw [hrow, Option.some.injEq] at hother
    subst hother
    exact ⟨rfl, rfl, fun hbreached => hbreached⟩
  | refreshed actor ticket =>
    obtain ⟨writing, hcurrent⟩ := promise
    have hnonempty := stampedBy_ne_nil writing.stamped
    have hlogged : Writing id before process 1
        { state with db := state.db.createTicketActivity id .firstResponse } := by
      refine ⟨writing.stamped, ?_, writing.signals⟩
      rw [responseEntries_log, writing.entries]
    exact ⟨⟨sane.row, sane.once, sane.actor, fun hnone => absurd hnone hnonempty⟩,
      ⟨hlogged, hcurrent⟩, List.Subset.refl _, .inr writing.stamped⟩
  | logged actor ticket =>
    obtain ⟨writing, hcurrent⟩ := promise
    simp only [proceed]
    split
    · exact .stay sane writing
    · rename_i hcheck
      refine .stay sane ⟨fun _ => ⟨writing.entries, ?_, fun other hother hlate => ?_⟩,
        fun _ => stampedBy_ne_nil writing.stamped⟩
      · rw [writing.signals]
        exact Nat.zero_le 1
      · have current := hcurrent other hother
        have hticket : isLate ticket = true := by
          rw [← hlate, isLate, current.firstRespondedAt, current.due]
          rfl
        rw [hticket, Bool.and_true, Bool.not_eq_true', Bool.not_eq_false] at hcheck
        exact current.breached hcheck
  | late actor ticket => exact flag_outcome sane now promise
  | flagged actor ticket =>
    obtain ⟨writing, hflagged⟩ := promise
    have hnonempty := stampedBy_ne_nil writing.stamped
    refine ⟨⟨sane.row, sane.once, sane.actor, fun hnone => absurd hnone hnonempty⟩,
      ⟨fun _ => ⟨writing.entries, ?_, hflagged⟩, fun _ => hnonempty⟩, List.Subset.refl _,
      .inr writing.stamped⟩
    simp [proceed, writing.signals]
  | returned actor => exact .stay sane promise
  | scanning ticket => exact .stay sane promise

theorem scanOn_outcome (sane : Sane id creator status before state) (work : Session → Session)
    (hwork : ∀ s, Settled s → Harmless s (work s))
    (promise : Promise id creator status before process state stage) :
    Outcome id creator status before process state (scanOn id work state stage) := by
  obtain ⟨row, hrow, -, hstatus, -⟩ := sane.row
  cases stage with
  | scanning ticket =>
    obtain ⟨hnot, hticket⟩ := promise
    have hsettled : Settled { db := state.db, id, ticket } :=
      ⟨row, hrow, hstatus.trans hticket.symm⟩
    have harmless := hwork _ hsettled
    exact ⟨sane.steady harmless.db, ⟨hnot, harmless.status.trans hticket⟩,
      List.Subset.refl _, .inl ⟨_, rfl, harmless.db⟩⟩
  | _ => exact .stay sane promise

theorem act_outcome (ws : Workspace) (sane : Sane id creator status before state)
    (promise : Promise id creator status before process state stage) (action : Action) :
    Outcome id creator status before process state (act ws id process state stage action) := by
  obtain ⟨row, hrow, hcreator, hstatus, hfirst⟩ := sane.row
  cases action with
  | load actor =>
    cases stage with
    | idle =>
      simp only [act, hrow]
      refine .stay sane ⟨promise, hcreator, fun hresponded hnone => ?_⟩
      rw [hfirst, hnone] at hresponded
      cases hresponded
    | _ => exact .stay sane promise
  | proceed now => exact proceed_outcome sane now promise
  | scan =>
    cases stage with
    | idle =>
      simp only [act, hrow]
      exact .stay sane ⟨promise, hstatus⟩
    | _ => exact .stay sane promise
  | flag clock policy now =>
    exact scanOn_outcome sane _ (fun _ settled => flagBreaches_harmless settled) promise
  | check clock policy now =>
    exact scanOn_outcome sane _ (fun _ settled => checkEscalationRules_harmless settled) promise

theorem turns_sound (ws : Workspace) :
    World.Sound (act ws id) (fun _ _ => True) (Sane id creator status before)
      (Promise id creator status before) where
  own world process action keeps _ := by
    have outcome := act_outcome ws keeps.shared (keeps.locals process) action
    exact ⟨outcome.sane, outcome.promise⟩
  others world process action other keeps _ hother := by
    have outcome := act_outcome ws keeps.shared (keeps.locals process) action
    rcases outcome.seen with ⟨db, hafter, hsteady⟩ | hstamped
    · rw [hafter]
      exact promise_steady keeps.shared (keeps.locals other) hsteady
    · have hnot' : ¬ Responses.StampedBy _ other := fun stamped =>
        hother (outcome.sane.unique stamped hstamped)
      have hnot : ¬ world.shared.StampedBy other := by
        rintro ⟨stamp, hmem, hcall⟩
        exact hnot' ⟨stamp, outcome.stamps hmem, hcall⟩
      exact promise_other (keeps.locals other) hnot hnot' fun _ => stampedBy_ne_nil hstamped

end Promises

/-! ## Whole runs -/

/-- The ticket has had no response, and no process has begun. -/
structure Fresh (id : ℕ) (row : Ticket) (world : World Responses Call) : Prop where
  stored : world.shared.db.tickets id = some row
  unanswered : row.firstRespondedAt = none
  stamps : world.shared.stamps = []
  signals : world.shared.signals = []
  idle : ∀ process, world.locals process = .idle

def Call.remaining : Call → ℕ
  | .loaded .. => 7
  | .timed .. => 6
  | .stamped .. => 5
  | .refreshed .. => 4
  | .logged .. => 3
  | .late .. => 2
  | .flagged .. => 1
  | .idle | .returned _ | .scanning _ => 0

def proceeds (process : ℕ) (events : List (ℕ × Action)) : ℕ :=
  events.countP fun event =>
    event.1 == process && match event.2 with
      | .proceed _ => true
      | _ => false

section Runs

variable (ws : Workspace) (id : ℕ)

theorem proceed_remaining (process : ℕ) (now : Instant) (state : Responses) (stage : Call) :
    (proceed id process now state stage).2.remaining ≤ stage.remaining - 1 := by
  cases stage with
  | loaded =>
    simp only [proceed]
    split
    · exact Nat.zero_le _
    · split <;> simp [Call.remaining]
  | timed | stamped | logged | late =>
    simp only [proceed]
    split <;> simp [Call.remaining]
  | _ => exact Nat.le_refl _

theorem act_remaining (process : ℕ) (state : Responses) (hbegun : stage ≠ .idle) (action : Action) :
    (act ws id process state stage action).2 ≠ .idle ∧
      (act ws id process state stage action).2.remaining ≤
        stage.remaining - proceeds process [(process, action)] := by
  cases action with
  | proceed now =>
    refine ⟨?_, by simpa [act, proceeds] using proceed_remaining id process now state stage⟩
    cases stage with
    | idle => exact absurd rfl hbegun
    | loaded =>
      simp only [act, proceed]
      split
      · exact nofun
      · split <;> exact nofun
    | timed | stamped | logged | late =>
      simp only [act, proceed]
      split <;> exact nofun
    | _ => exact nofun
  | load | scan | flag | check =>
    cases stage with
    | idle => exact absurd rfl hbegun
    | _ => simp [act, scanOn, proceeds, Call.remaining]

theorem call_remaining (world : World Responses Call) (process : ℕ)
    (events : List (ℕ × Action)) (hbegun : world.locals process ≠ .idle) :
    ((run (World.turn (act ws id)) world events).locals process).remaining ≤
      (world.locals process).remaining - proceeds process events := by
  induction events generalizing world with
  | nil => exact Nat.le_refl _
  | cons event rest ih =>
    obtain ⟨actor, action⟩ := event
    rw [run_cons]
    by_cases hactor : process = actor
    · subst hactor
      obtain ⟨hstill, hless⟩ := act_remaining ws id process world.shared hbegun action
      rw [← World.turn_locals_self] at hstill hless
      have hrest := ih _ hstill
      have hcount : proceeds process ((process, action) :: rest) =
          proceeds process rest + proceeds process [(process, action)] := by
        simp only [proceeds, List.countP_cons, List.countP_nil, Nat.zero_add]
      omega
    · have hsame : (world.turn (act ws id) (actor, action)).locals process =
          world.locals process := World.turn_locals_of_ne world action hactor
      have hrest := ih (world.turn (act ws id) (actor, action)) (by rwa [hsame])
      have hcount : proceeds process ((actor, action) :: rest) = proceeds process rest := by
        simp [proceeds, Ne.symm hactor]
      rw [hsame] at hrest
      rwa [hcount]

variable {ws id} {row : Ticket} {world : World Responses Call}
variable {before : ℕ}

abbrev Kept (id : ℕ) (row : Ticket) (before : ℕ) : World Responses Call → Prop :=
  World.Keeps (Sane id row.createdBy row.status before)
    (Promise id row.createdBy row.status before)

theorem Fresh.kept (fresh : Fresh id row world) :
    Kept id row (responseEntries world.shared.db id) world where
  shared := by
    refine ⟨⟨row, fresh.stored, rfl, rfl, ?_⟩, ?_, ?_, fun _ => ⟨rfl, fresh.signals⟩⟩
    · rw [fresh.unanswered, fresh.stamps]
      rfl
    · rw [fresh.stamps]
      exact Nat.zero_le 1
    · rw [fresh.stamps]
      exact nofun
  locals process := by
    rw [fresh.idle process]
    rintro ⟨stamp, hmem, -⟩
    rw [fresh.stamps] at hmem
    cases hmem

theorem Kept.run (kept : Kept id row before world) (events : List (ℕ × Action)) :
    Kept id row before (run (World.turn (act ws id)) world events) :=
  (turns_sound ws).run kept events (every_of_forall (fun _ _ => trivial) world events)

theorem Kept.stamps (kept : Kept id row before world) (hmem : stamp ∈ world.shared.stamps)
    (events : List (ℕ × Action)) :
    stamp ∈ (Support.run (World.turn (act ws id)) world events).shared.stamps := by
  have hturn : ∀ world event, (Kept id row before world ∧ stamp ∈ world.shared.stamps) → True →
      Kept id row before (world.turn (act ws id) event) ∧
        stamp ∈ (world.turn (act ws id) event).shared.stamps := by
    rintro world ⟨process, action⟩ ⟨hkept, hstamp⟩ admitted
    have outcome := act_outcome ws hkept.shared (hkept.locals process) action
    exact ⟨(turns_sound ws).turn hkept admitted, outcome.stamps hstamp⟩
  exact (run_invariant _ hturn ⟨kept, hmem⟩ events
    (every_of_forall (fun _ _ => trivial) world events)).2

theorem Kept.bounds (kept : Kept id row before world) :
    responseEntries world.shared.db id ≤ before + 1 ∧ world.shared.signals.length ≤ 1 := by
  have hwriting : ∀ {call written}, written ≤ 1 → Writing id before call written world.shared →
      responseEntries world.shared.db id ≤ before + 1 ∧ world.shared.signals.length ≤ 1 := by
    intro call written hwritten writing
    rw [writing.entries, writing.signals]
    exact ⟨Nat.add_le_add_left hwritten before, Nat.zero_le 1⟩
  cases hstamps : world.shared.stamps with
  | nil =>
    obtain ⟨hentries, hsignals⟩ := kept.shared.untouched hstamps
    rw [hentries, hsignals]
    exact ⟨Nat.le_succ before, Nat.zero_le 1⟩
  | cons stamp rest =>
    have hstamped : world.shared.StampedBy stamp.call :=
      ⟨stamp, hstamps ▸ List.mem_cons_self, rfl⟩
    have hpromise := kept.locals stamp.call
    cases hstage : world.locals stamp.call with
    | idle =>
      rw [hstage] at hpromise
      exact absurd hstamped hpromise
    | loaded => exact absurd hstamped (hstage ▸ hpromise).1
    | timed => exact absurd hstamped (hstage ▸ hpromise).1
    | stamped => exact hwriting (Nat.zero_le 1) (hstage ▸ hpromise)
    | refreshed => exact hwriting (Nat.zero_le 1) (hstage ▸ hpromise).1
    | logged => exact hwriting le_rfl (hstage ▸ hpromise).1
    | late => exact hwriting le_rfl (hstage ▸ hpromise)
    | flagged => exact hwriting le_rfl (hstage ▸ hpromise).1
    | returned =>
      rw [hstage] at hpromise
      obtain ⟨hentries, hsignals, -⟩ := hpromise.1 hstamped
      exact ⟨hentries.le, hsignals⟩
    | scanning => exact absurd hstamped (hstage ▸ hpromise).1

/-- What a run has recorded of the first response to a ticket. -/
structure RecordedOnce (id : ℕ) (row : Ticket) (before : ℕ) (after : World Responses Call) :
    Prop where
  once : after.shared.stamps.length ≤ 1
  actor : ∀ stamp ∈ after.shared.stamps, stamp.actor ≠ some row.createdBy
  stored : ∃ row', after.shared.db.tickets id = some row' ∧
    row'.firstRespondedAt = after.shared.stamps.head?.map Stamp.respondedAt
  entry : responseEntries after.shared.db id ≤ before + 1
  signal : after.shared.signals.length ≤ 1
  /-- A call for somebody else has returned, so there is a stamp. -/
  stamped : ∀ process actor, after.locals process = .returned actor →
    actor ≠ some row.createdBy → after.shared.stamps.length = 1
  /-- The call that stamped has nothing left to do, so its entry and the flag are there. -/
  finished : ∀ stamp ∈ after.shared.stamps, (after.locals stamp.call).remaining = 0 →
    responseEntries after.shared.db id = before + 1 ∧ after.shared.Row id Flagged

theorem Kept.recordedOnce (kept : Kept id row before world) :
    RecordedOnce id row before world where
  once := kept.shared.once
  actor := kept.shared.actor
  stored := by
    obtain ⟨row', hrow, -, -, hfirst⟩ := kept.shared.row
    exact ⟨row', hrow, hfirst⟩
  entry := kept.bounds.1
  signal := kept.bounds.2
  stamped process actor hreturned hactor := by
    have hpromise := kept.locals process
    rw [hreturned] at hpromise
    obtain ⟨stamp, hmem⟩ := List.exists_mem_of_ne_nil _ (hpromise.2 hactor)
    rw [kept.shared.eq_singleton hmem]
    rfl
  finished stamp hmem hdone := by
    have hstamped : world.shared.StampedBy stamp.call := ⟨stamp, hmem, rfl⟩
    have hpromise := kept.locals stamp.call
    cases hstage : world.locals stamp.call with
    | idle =>
      rw [hstage] at hpromise
      exact absurd hstamped hpromise
    | returned =>
      rw [hstage] at hpromise
      obtain ⟨hentries, -, hflagged⟩ := hpromise.1 hstamped
      exact ⟨hentries, hflagged⟩
    | scanning => exact absurd hstamped (hstage ▸ hpromise).1
    | _ =>
      rw [hstage] at hdone
      cases hdone

variable (ws) in
/--
Under every schedule of the calls and the scans, a ticket that has had no response gets one
stamp, one entry and at most one signal, its stamp stays, each call returns after seven
turns, and a late response is flagged once the call that stamped it has returned.
-/
theorem first_response_recorded_once (fresh : Fresh id row world) (events : List (ℕ × Action)) :
    let after := run (World.turn (act ws id)) world events
    RecordedOnce id row (responseEntries world.shared.db id) after ∧
      (∀ answered value, after.shared.db.tickets id = some answered →
        answered.firstRespondedAt = some value → ∀ more, ∃ later,
          (run (World.turn (act ws id)) after more).shared.db.tickets id = some later ∧
            later.firstRespondedAt = some value) ∧
      ∀ process, after.locals process ≠ .idle → ∀ more, 7 ≤ proceeds process more →
        ((run (World.turn (act ws id)) after more).locals process).remaining = 0 := by
  intro after
  have hkept : Kept id row (responseEntries world.shared.db id) after := fresh.kept.run events
  refine ⟨hkept.recordedOnce, ?_, ?_⟩
  · intro answered value hanswered hvalue more
    obtain ⟨row', hrow', -, -, hfirst⟩ := hkept.shared.row
    rw [hanswered, Option.some.injEq] at hrow'
    subst hrow'
    rw [hvalue] at hfirst
    obtain ⟨stamp, hhead, hstamp⟩ := Option.map_eq_some_iff.mp hfirst.symm
    have hmore : Kept id row (responseEntries world.shared.db id)
        (run (World.turn (act ws id)) after more) := hkept.run more
    have hlater := hmore.shared
    obtain ⟨later, hstored, -, -, hrespondedAt⟩ := hlater.row
    rw [hlater.eq_singleton (hkept.stamps (List.mem_of_mem_head? hhead) more)] at hrespondedAt
    exact ⟨later, hstored, hrespondedAt.trans (congrArg some hstamp)⟩
  · intro process hbegun more hturns
    have hless := call_remaining ws id after process more hbegun
    have hseven : (after.locals process).remaining ≤ 7 := by
      cases after.locals process <;> simp [Call.remaining]
    omega

/-- A ticket without a response, a minute after its deadline. -/
def overdueTicket : Ticket :=
  { status := waitingStatus, createdBy := 1, createdAt := 0, updatedAt := 0
    slaFirstResponseDue := some 0 }

def overdueWorld : World Responses Call where
  shared := { db := { tickets := fun id => if id = 5 then some overdueTicket else none } }
  locals := fun _ => .idle

/-- Two agents answer at once, and the one who comes second to the check stamps first. -/
def answeredTwice : List (ℕ × Action) :=
  [(0, .load (some 2)), (1, .load (some 3)), (0, .proceed 60), (1, .proceed 61), (1, .proceed 61),
    (0, .proceed 62)] ++ List.replicate 5 (1, .proceed 63)

theorem overdueWorld_fresh : Fresh 5 overdueTicket overdueWorld :=
  ⟨rfl, rfl, rfl, rfl, fun _ => rfl⟩

theorem first_response_recorded_when_answered_twice :
    let after := run (World.turn (act Workspace.seeded 5)) overdueWorld answeredTwice
    RecordedOnce 5 overdueTicket 0 after ∧
      after.shared.stamps = [{ call := 1, actor := some 3, respondedAt := 61 }] ∧
      after.shared.signals = [(some 61, some 0)] :=
  ⟨(first_response_recorded_once Workspace.seeded overdueWorld_fresh answeredTwice).1,
    by decide, by decide⟩

end Runs

end Kanzan.Tickets.FirstResponse

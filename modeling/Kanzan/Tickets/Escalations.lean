import Kanzan.Sla.Extensions
import Kanzan.Tickets.Edits

/-!
# Deadlines under escalation

An escalation moves the deadlines of its ticket: one that has passed to a quarter of an hour from
now, one ahead by half of the time that remains, within bounds.  Here over any number of
escalations, each under the configuration of its own time.
-/

namespace Kanzan.Tickets

open Sla Support

/-! ## One deadline -/

/-- The minutes by which `_extend_deadline` moves a deadline that lies ahead. -/
def extension (now due : Instant) (policyMinutes : ℕ) : Minutes :=
  max minExtensionMinutes (min (totalMinutes (due - now) / 2) policyMinutes)

/-- A deadline has moved as `_extend_sla_on_escalation` says. -/
structure Deferral (ws : Workspace) (now : Instant) (policyMinutes : ℕ) (due new : Instant) :
    Prop where
  later : due ≤ new
  passed : due ≤ now →
    now ≤ new ∧ businessMinutes ws.toTenant now new = minExtensionMinutes
  ahead : now < due → minExtensionMinutes ≤ businessMinutes ws.toTenant due new ∧
    businessMinutes ws.toTenant due new ≤ max minExtensionMinutes policyMinutes

/-- The time that a deadline is to be moved by can be added, to now or to the deadline. -/
def Extensible (ws : Workspace) (now : Instant) (policyMinutes : ℕ) (due : Instant) : Prop :=
  if due ≤ now then CanExtend ws.toTenant now 15 minExtensionMinutes
  else CanExtend ws.toTenant due 15 (extension now due policyMinutes)

section Single

variable {ws : Workspace} {now due : Instant} {policyMinutes : ℕ}

theorem extendDeadline_passed (hpassed : due ≤ now) :
    extendDeadline ws now (some due) policyMinutes =
      addBusinessMinutes now minExtensionMinutes ws.toTenant :=
  if_pos (sub_nonpos.mpr hpassed)

theorem extendDeadline_ahead (hahead : now < due) :
    extendDeadline ws now (some due) policyMinutes =
      addBusinessMinutes due (extension now due policyMinutes) ws.toTenant :=
  if_neg (not_le.mpr (sub_pos.mpr hahead))

theorem minExtensionMinutes_eq : minExtensionMinutes = (15 : ℕ) := rfl

theorem extension_le (now due : Instant) (policyMinutes : ℕ) :
    extension now due policyMinutes ≤ (max 15 policyMinutes : ℕ) := by
  rw [Nat.cast_max, ← minExtensionMinutes_eq]
  exact max_le_max le_rfl (min_le_right _ _)

theorem extendDeadline_deferral (extensible : Extensible ws now policyMinutes due) :
    Deferral ws now policyMinutes due (extendDeadline ws now (some due) policyMinutes) := by
  unfold Extensible at extensible
  split at extensible
  · rename_i hpassed
    obtain ⟨hlater, hlow, hhigh⟩ :=
      addBusinessMinutes_extends minExtensionMinutes_eq.ge minExtensionMinutes_eq.le (by decide)
        extensible
    rw [extendDeadline_passed hpassed]
    exact ⟨hpassed.trans hlater, fun _ => ⟨hlater, le_antisymm hhigh hlow⟩,
      fun hahead => absurd hpassed (not_le.mpr hahead)⟩
  · rename_i hahead
    have hleast : ((15 : ℕ) : Minutes) ≤ extension now due policyMinutes := le_max_left _ _
    obtain ⟨hlater, hlow, hhigh⟩ :=
      addBusinessMinutes_extends hleast (extension_le now due policyMinutes) (by decide)
        extensible
    rw [extendDeadline_ahead (not_le.mp hahead)]
    rw [Nat.cast_max, ← minExtensionMinutes_eq] at hhigh
    exact ⟨hlater, fun hpassed => absurd hpassed hahead, fun _ => ⟨hlow, hhigh⟩⟩

end Single

/-! ## One escalation -/

/-- The two deadlines of a ticket. -/
inductive Target where
  | firstResponse
  | resolution
  deriving DecidableEq, Repr

def Target.due : Target → Ticket → Option Instant
  | .firstResponse, ticket => ticket.slaFirstResponseDue
  | .resolution, ticket => ticket.slaResolutionDue

def Target.minutes : Target → SLAPolicy → ℕ
  | .firstResponse, policy => policy.firstResponseMinutes
  | .resolution, policy => policy.resolutionMinutes

/-- An escalation, under the configuration that it finds. -/
structure Escalation where
  ws : Workspace
  req : Request
  reason : String
  assignee : Option ℕ := none
  queue : Option Queue := none
  brokerUp : Bool := true

namespace Escalation

/-- The call of `escalate_ticket`. -/
def op (escalation : Escalation) (id : ℕ) : Op :=
  .escalateTicket id escalation.reason escalation.assignee escalation.queue

def apply (id : ℕ) (db : Db) (escalation : Escalation) : Db :=
  step escalation.ws db ⟨escalation.op id, escalation.req, escalation.brokerUp⟩

/-- `escalate_ticket` returns. -/
def Succeeds (id : ℕ) (db : Db) (escalation : Escalation) : Prop :=
  ∃ after, attempt escalation.ws escalation.req (escalation.op id) db = .ok after

/-- Every deadline stays or moves later; and it is extended if the call returns under a policy. -/
def Lengthens (id : ℕ) (db : Db) (escalation : Escalation) : Prop :=
  ∀ ticket, db.tickets id = some ticket →
    ∃ escalated, (escalation.apply id db).tickets id = some escalated ∧
      ∀ (target : Target) due, target.due ticket = some due →
        ∃ new, target.due escalated = some new ∧ due ≤ new ∧
          (escalation.Succeeds id db →
            ∀ policy, escalation.ws.policyFor ticket.priority = some policy →
              Deferral escalation.ws escalation.req.clock.service (target.minutes policy) due new)

/-- The time by which the deadlines are to be moved can be added to them. -/
def Admissible (id : ℕ) (db : Db) (escalation : Escalation) : Prop :=
  escalation.Succeeds id db → ∀ ticket policy, db.tickets id = some ticket →
    escalation.ws.policyFor ticket.priority = some policy →
      ∀ (target : Target) due, target.due ticket = some due →
        Extensible escalation.ws escalation.req.clock.service (target.minutes policy) due

end Escalation

variable {ticket : Ticket}

section Steps

variable {ws : Workspace} {req : Request} {s t : Session}

/-- The row after `_extend_sla_on_escalation`. -/
theorem extendSlaOnEscalation_row {row : Ticket} (ws : Workspace) (req : Request) (now : Instant)
    (hrow : s.db.tickets s.id = some row) (hstatus : row.status = s.ticket.status)
    (target : Target) (hsame : target.due row = target.due s.ticket) :
    ((extendSlaOnEscalation ws req now s).db.tickets s.id).map target.due =
      some (match ws.policyFor s.ticket.priority with
        | none => target.due s.ticket
        | some policy =>
          some (extendDeadline ws now (target.due s.ticket) (target.minutes policy))) := by
  unfold extendSlaOnEscalation
  cases hpolicy : ws.policyFor s.ticket.priority with
  | none => rw [hrow, Option.map_some, hsame]
  | some policy =>
    have hlog : ∀ (old : Ticket) (s : Session),
        (logSlaChange old s).db.tickets = s.db.tickets := by
      intro old s
      unfold logSlaChange
      split <;> rfl
    dsimp only
    rw [hlog, save_of_same ⟨row, hrow, hstatus⟩ (by rfl), write_of_same hrow (by exact hstatus)]
    simp only [Db.updateTicket, Function.update_self, Option.map_some, Ticket.autoNow]
    cases target <;> simp [Target.due, Target.minutes, Ticket.persist]

theorem Target.due_persist (target : Target) {columns : List Column}
    (hfirst : .slaFirstResponseDue ∉ columns) (hresolution : .slaResolutionDue ∉ columns)
    (inst row : Ticket) : target.due (inst.persist columns row) = target.due row := by
  cases target with
  | firstResponse => simp [due, Ticket.persist, hfirst]
  | resolution => simp [due, Ticket.persist, hresolution]

/-- The deadlines that `escalate_ticket` stores for the ticket it loads. -/
theorem escalateTicket_due {db : Db} {id : ℕ} {reason : String} {assignee : Option ℕ}
    {queue : Option Queue} (hticket : db.tickets id = some ticket)
    (success : escalateTicket ws req reason assignee queue { db, id, ticket } = .ok t)
    (target : Target) :
    (t.db.tickets id).map target.due = some (match ws.policyFor ticket.priority with
      | none => target.due ticket
      | some policy => some (extendDeadline ws req.clock.service (target.due ticket)
          (target.minutes policy))) := by
  obtain ⟨escalated, edits, rfl⟩ := escalateTicket_cases _ success
  have settled : Settled { db, id, ticket } := ⟨ticket, hticket, rfl⟩
  have hid : escalated.id = id := edits.untouched.id
  obtain ⟨hdue, hrowDue⟩ := edits.keeps (by decide) settled target.due
    (target.due_persist (by decide) (by decide)) (fun _ _ => by cases target <;> rfl)
    (fun _ _ _ => by cases target <;> rfl)
  have hpriority := (edits.keeps (by decide) settled Ticket.priority
    (fun _ _ => by simp [Ticket.persist]) (fun _ _ => rfl) fun _ _ _ => rfl).1
  obtain ⟨⟨row, hrow, hstatus⟩, -⟩ := edits.settled (by decide) settled
  have hsame : target.due row = target.due escalated.ticket := by
    rw [← hid, hrow] at hrowDue
    dsimp only at hrowDue hdue
    rw [hid, hticket] at hrowDue
    exact (Option.some.inj hrowDue).trans hdue.symm
  have hextended := extendSlaOnEscalation_row ws req req.clock.service hrow hstatus target hsame
  rw [hdue, hpriority, hid] at hextended
  exact hextended

end Steps

namespace Escalation

variable {id : ℕ} {db : Db} {escalation : Escalation}

theorem apply_of_not_succeeds (hfails : ¬ escalation.Succeeds id db) :
    escalation.apply id db = db := by
  unfold apply step
  dsimp only
  cases hattempt : attempt escalation.ws escalation.req (escalation.op id) db with
  | error message => rfl
  | ok after => exact absurd ⟨after, hattempt⟩ hfails

theorem apply_due (hticket : db.tickets id = some ticket) (succeeds : escalation.Succeeds id db) :
    ∃ escalated, (escalation.apply id db).tickets id = some escalated ∧
      ∀ target : Target, target.due escalated =
        match escalation.ws.policyFor ticket.priority with
        | none => target.due ticket
        | some policy => some (extendDeadline escalation.ws escalation.req.clock.service
            (target.due ticket) (target.minutes policy)) := by
  obtain ⟨after, hattempt⟩ := succeeds
  obtain ⟨loaded, t, hloaded, success, rfl⟩ := onTicket_eq_ok.mp hattempt
  rw [hticket, Option.some.injEq] at hloaded
  subst hloaded
  have hrows : ∀ target : Target,
      ((escalation.apply id db).tickets id).map target.due =
        (t.db.tickets id).map target.due := by
    intro target
    unfold apply step
    dsimp only
    rw [hattempt]
    exact commit_map target.due (fun _ _ => by cases target <;> rfl) _ _ _
  have hdue : ∀ target : Target, _ := fun target =>
    (hrows target).trans (escalateTicket_due hticket success target)
  cases hescalated : (escalation.apply id db).tickets id with
  | none =>
    have hfirst := hdue .firstResponse
    rw [hescalated] at hfirst
    cases hfirst
  | some escalated =>
    refine ⟨escalated, rfl, fun target => ?_⟩
    have htarget := hdue target
    rw [hescalated] at htarget
    exact Option.some.inj htarget

theorem lengthens_of_admissible (admissible : escalation.Admissible id db) :
    escalation.Lengthens id db := by
  intro ticket hticket
  by_cases succeeds : escalation.Succeeds id db
  · obtain ⟨escalated, hescalated, hdue⟩ := apply_due hticket succeeds
    refine ⟨escalated, hescalated, fun target due hbefore => ?_⟩
    have hafter := hdue target
    cases hpolicy : escalation.ws.policyFor ticket.priority with
    | none =>
      rw [hpolicy] at hafter
      exact ⟨due, hafter.trans hbefore, le_rfl, fun _ policy h => absurd h (Option.some_ne_none policy).symm⟩
    | some policy =>
      rw [hpolicy, hbefore] at hafter
      have extended := extendDeadline_deferral
        (admissible succeeds ticket policy hticket hpolicy target due hbefore)
      refine ⟨_, hafter, extended.later, fun _ other hother => ?_⟩
      rw [← Option.some.inj hother]
      exact extended
  · rw [apply_of_not_succeeds succeeds]
    exact ⟨ticket, hticket, fun target due hbefore =>
      ⟨due, hbefore, le_rfl, fun hsucceeds => absurd hsucceeds succeeds⟩⟩

end Escalation

/-! ## Any number of escalations -/

/--
Every escalation of a run extends the deadlines as it should, and at its end none of them is
earlier than it was, if the time to be added can be added each time.
-/
theorem escalations_lengthen (id : ℕ) (db : Db) (escalations : List Escalation)
    (admitted : Every (fun db escalation => escalation.apply id db)
      (fun db escalation => escalation.Admissible id db) db escalations) :
    Every (fun db escalation => escalation.apply id db)
        (fun db escalation => escalation.Lengthens id db) db escalations ∧
      ∀ ticket, db.tickets id = some ticket →
        ∃ last, (run (fun db escalation => escalation.apply id db) db escalations).tickets id =
            some last ∧
          ∀ (target : Target) due, target.due ticket = some due →
            ∃ new, target.due last = some new ∧ due ≤ new := by
  induction escalations generalizing db with
  | nil => exact ⟨trivial, fun ticket hticket => ⟨ticket, hticket, fun _ due h => ⟨due, h, le_rfl⟩⟩⟩
  | cons escalation rest ih =>
    have lengthens := Escalation.lengthens_of_admissible admitted.1
    obtain ⟨hrest, hlast⟩ := ih (escalation.apply id db) admitted.2
    refine ⟨⟨lengthens, hrest⟩, fun ticket hticket => ?_⟩
    obtain ⟨escalated, hescalated, hstep⟩ := lengthens ticket hticket
    obtain ⟨last, hfound, hmoved⟩ := hlast escalated hescalated
    refine ⟨last, hfound, fun target due hdue => ?_⟩
    obtain ⟨middle, hmiddle, hle, -⟩ := hstep target due hdue
    obtain ⟨new, hnew, hafter⟩ := hmoved target middle hmiddle
    exact ⟨new, hnew, hle.trans hafter⟩

/-! ## In the office -/

theorem workable_office {config : BusinessConfig}
    (hconfig : getBusinessConfig Workspace.office.toTenant = some config) :
    config.tz = .fixed 0 ∧ config.Workable (480 * minuteMicros) := by
  simp only [getBusinessConfig, Workspace.office, Workspace.seeded] at hconfig
  rw [if_neg (by decide), Option.some.injEq] at hconfig
  subst hconfig
  refine ⟨rfl, by decide, ?_, ?_⟩
  · intro day times hdays
    dsimp only at hdays
    split at hdays
    · rw [← Option.some.inj hdays]
      decide
    · cases hdays
  · intro day
    have hweekday : ∀ later : ℕ, (day + later + 3) % 7 < 5 →
        (day + later + 3) % 7 ∈ ([0, 1, 2, 3, 4] : List ℤ) := by
      intro later hlater
      simp only [List.mem_cons, List.not_mem_nil, or_false]
      omega
    by_cases hweekend : (day + 3) % 7 < 5
    · refine ⟨0, by decide, List.not_mem_nil, ?_⟩
      dsimp only
      rw [if_pos (hweekday 0 (by omega))]
      rfl
    · refine ⟨2, by decide, List.not_mem_nil, ?_⟩
      dsimp only
      rw [if_pos (hweekday 2 (by omega))]
      rfl

theorem canExtend_office (start : Instant) (minutes : Minutes) :
    CanExtend Workspace.office.toTenant start 15 minutes := by
  intro config hconfig
  obtain ⟨hfixed, workable⟩ := workable_office hconfig
  have hfar := workable.le_ticks_last (config.tz.fromUtc start)
  have hquarter : ((15 : ℕ) : ℤ) * minuteMicros ≤ 8758 * (480 * minuteMicros) := by decide
  refine extendable_fixed hfixed ?_
  rw [ZoneInfo.wall]
  exact hquarter.trans hfar

/-- A ticket that was due at ten on a Thursday and is due at four. -/
def dueTicket : Ticket :=
  { status := { pk := 0, name := "Open", slug := "open", order := 10, isDefault := true }
    createdBy := 1, createdAt := 0, updatedAt := 0
    slaFirstResponseDue := some 36000000000, slaResolutionDue := some 57600000000 }

def dueDb : Db := { tickets := fun id => if id = 0 then some dueTicket else none, ticketIds := [0] }

def escalationAt (ws : Workspace) (now : Instant) : Escalation where
  ws := ws
  req := { clock := ⟨now, now, now, now⟩, actor := some 1 }
  reason := "No reply"

/-- Escalated at noon and again a minute later, its deadlines only move later. -/
theorem escalations_lengthen_twice :
    ∃ last, (run (fun db escalation => Escalation.apply 0 db escalation) dueDb
        [escalationAt .office 43200000000, escalationAt .office 43260000000]).tickets 0 =
          some last ∧
      ∀ (target : Target) due, target.due dueTicket = some due →
        ∃ new, target.due last = some new ∧ due ≤ new := by
  refine (escalations_lengthen 0 dueDb
    [escalationAt .office 43200000000, escalationAt .office 43260000000] ?_).2 dueTicket rfl
  have admissible : ∀ db now, (escalationAt .office now).Admissible 0 db := by
    intro db now _ ticket policy _ _ target due _
    unfold Extensible
    split
    · exact canExtend_office _ _
    · exact canExtend_office _ _
  exact ⟨admissible _ _, admissible _ _, trivial⟩

/-! ## A clock that is put back -/

/-- At one in the morning the clock is put back to midnight. -/
def putBack : ZoneInfo where
  fromUtc instant :=
    if instant < 0 then ⟨instant + 3600000000, false⟩ else ⟨instant, instant < 3600000000⟩
  toUtc reading :=
    if reading.fold = false ∧ reading.wall < 3600000000 then reading.wall - 3600000000
    else reading.wall
  toUtc_fromUtc instant := by
    by_cases hbefore : instant < 0
    · have hlow : instant + 3600000000 < 3600000000 := add_lt_of_neg_left _ hbefore
      simp [hbefore, hlow]
    · by_cases hfold : instant < 3600000000
      · simp [hbefore, hfold]
      · simp [hbefore, hfold]

/-- Open from midnight to a minute before it. -/
def nightDesk : Workspace :=
  { Workspace.office with
    settings := some
      { timezone := "Night", businessHoursStart := .dial 0 0 0, businessHoursEnd := .dial 23 59 0
        businessDays := [0, 1, 2, 3, 4, 5, 6] }
    zones := fun _ => some putBack }

def nightDb : Db :=
  { tickets := fun id =>
      if id = 0 then some { dueTicket with slaFirstResponseDue := some 1800000000 } else none
    ticketIds := [0] }

/-- Half past midnight comes twice, and the deadline moves from the second to the first. -/
theorem not_escalations_lengthen :
    ¬ ∀ (id : ℕ) (db : Db) (escalation : Escalation), escalation.Lengthens id db := by
  intro hall
  obtain ⟨escalated, hescalated, hmoved⟩ := hall 0 nightDb (escalationAt nightDesk 0) _ rfl
  obtain ⟨new, hnew, hle, -⟩ := hmoved .firstResponse 1800000000 rfl
  have hearlier : (((escalationAt nightDesk 0).apply 0 nightDb).tickets 0).bind
      (Target.due .firstResponse) = some (-900000000) := by
    decide +kernel
  rw [hescalated, Option.bind_some, hnew, Option.some.injEq] at hearlier
  rw [hearlier] at hle
  exact absurd hle (by decide)

end Kanzan.Tickets

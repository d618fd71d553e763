import Kanzan.Sla.Deadline
import Kanzan.Tickets.Edits
import Kanzan.Tickets.Elapsed

/-!
# The two breach detectors

The closure check compares the closing instant with the stored deadline; the scan
compares the elapsed minutes with the policy.  On a ticket whose clock ran undisturbed
since its creation both look at the same span, and still they differ where the business is
closed after the deadline, and where the policy runs around the clock.
-/

namespace Kanzan.Tickets

open Sla Support

variable {ws : Workspace} {req : Request}
variable {policy : SLAPolicy} {s : Session}

def closesLate (ticket : Ticket) (now : Instant) : Bool :=
  (checkResolutionBreach { ticket with closedAt := some now } now).slaResolutionBreached

def scansLate (ws : Workspace) (policy : SLAPolicy) (now : Instant) (s : Session) : Bool :=
  resolutionBreached policy (s.effectiveElapsed ws policy now) s.ticket

/--
A ticket in progress whose clock is the one that `initialize_sla` started in the session of
its creation: the same deadline and creation instant, no pause, no breach on record.
-/
structure Undisturbed (ws : Workspace) (req : Request) (created later : Session) : Prop where
  createdAt : later.ticket.createdAt = created.ticket.createdAt
  due : later.ticket.slaResolutionDue = (initializeSla ws req created).ticket.slaResolutionDue
  unpaused : later.db.pausesOf later.id = []
  unflagged : later.ticket.slaResolutionBreached = false
  unresolved : later.ticket.resolvedAt = none

def SLAPolicy.resolutionMicros (policy : SLAPolicy) : ℤ :=
  policy.resolutionMinutes * minuteMicros

/--
An instant lies on the same side of the deadline in business hours as of the policy's own
limit: for a business-hours policy the open time since the deadline must tell, for one that
runs around the clock the wall clock does.
-/
def SameSide (tenant : Tenant) (policy : SLAPolicy) (createdAt now : Instant) : Prop :=
  match getBusinessConfig tenant with
  | none => True
  | some config =>
    ∃ reading overdue,
      Deadline config (config.tz.fromUtc createdAt) policy.resolutionMicros reading overdue ∧
        (config.tz.toUtc reading < now ↔
          if policy.businessHoursOnly then
            overdue < ticks config.Open reading.wall (config.tz.wall now)
          else createdAt + policy.resolutionMicros < now)

/-! ## The two checks -/

theorem closesLate_iff {ticket : Ticket} (hunflagged : ticket.slaResolutionBreached = false)
    {due : Instant} (hdue : ticket.slaResolutionDue = some due) (now : Instant) :
    closesLate ticket now = true ↔ due < now := by
  by_cases hlate : due < now <;>
    simp [closesLate, checkResolutionBreach, hunflagged, hdue, hlate]

/-- The scan compares the counted time since the creation with the policy. -/
theorem scansLate_iff (now : Instant) (hunpaused : s.db.pausesOf s.id = [])
    (hunflagged : s.ticket.slaResolutionBreached = false) (hunresolved : s.ticket.resolvedAt = none)
    :
    scansLate ws policy now s = true ↔
      policy.resolutionMicros <
        countedMicros (policyConfig policy ws.toTenant) s.ticket.createdAt now := by
  have hlimit : 0 ≤ policy.resolutionMicros :=
    mul_nonneg (Int.natCast_nonneg _) (by decide)
  have helapsed : s.effectiveElapsed ws policy now =
      totalMinutes (max 0 (countedMicros (policyConfig policy ws.toTenant)
        s.ticket.createdAt now)) := by
    simp only [Session.effectiveElapsed, hunpaused, getEffectiveElapsedMinutes,
      getTotalPauseMinutes, List.filter_nil, List.map_nil, List.sum_nil, sub_zero,
      minutesBetween_eq, totalMinutes_max]
  have hminutes : (policy.resolutionMinutes : Minutes) = totalMinutes policy.resolutionMicros :=
    natCast_eq_totalMinutes policy.resolutionMinutes
  rw [scansLate, resolutionBreached, helapsed, hminutes, hunflagged, hunresolved]
  simp only [Bool.not_false, Option.isNone_none, Bool.true_and, decide_eq_true_eq,
    totalMinutes_lt]
  omega

/-- The deadline that `initialize_sla` puts on a stored ticket. -/
theorem initializeSla_due (settled : Settled s)
    (hpolicy : ws.policyFor s.ticket.priority = some policy) :
    (initializeSla ws req s).ticket.slaResolutionDue =
      some (addBusinessMinutes req.clock.service policy.resolutionMinutes ws.toTenant) := by
  obtain ⟨row, hrow, hstatus⟩ := settled
  unfold initializeSla
  rw [hpolicy]
  dsimp only
  rw [save_of_same ⟨row, hrow, hstatus⟩ rfl, write_of_same hrow hstatus]
  dsimp only [Ticket.autoNow]
  split <;> rfl

/-! ## Their agreement -/

theorem addBusinessMinutes_deadline {tenant : Tenant} {config : BusinessConfig}
    (hconfig : getBusinessConfig tenant = some config) (startUtc : Instant) (minutes : ℕ) :
    ∃ reading overdue,
      Deadline config (config.tz.fromUtc startUtc) (minutes * minuteMicros) reading overdue ∧
        addBusinessMinutes startUtc minutes tenant = config.tz.toUtc reading := by
  obtain ⟨overdue, deadline⟩ := addBusinessMinutesLocal_deadline config startUtc
    (minutes * minuteMicros) (mul_nonneg (Int.natCast_nonneg _) (by decide))
  refine ⟨_, overdue, deadline, ?_⟩
  rw [addBusinessMinutes, hconfig, natCast_eq_totalMinutes]
  rfl

/-- A request on Friday at four in the afternoon. -/
def fridayRequest : Request :=
  { clock := ⟨144000000000, 144000000000, 144000000000, 144000000000⟩, actor := some 1 }

/-- A ticket just created then. -/
def fridayTicket : Session :=
  let ticket := NewTicket.row { id := 0 } (defaultStatuses.head (by decide)) 1 144000000000
  { db := Db.empty.insertTicket 0 ticket, id := 0, ticket }

theorem fridayTicket_undisturbed :
    Undisturbed .office fridayRequest fridayTicket
      (initializeSla .office fridayRequest fridayTicket) where
  createdAt := by decide +kernel
  due := rfl
  unpaused := by decide +kernel
  unflagged := by decide +kernel
  unresolved := by decide +kernel

end Kanzan.Tickets

import Kanzan.Sla.Clock

/-!
# Availability of agents

The `AgentAvailability` row with the properties computed from it.  Whether an agent may be
given new work depends on the present time, on how long a heartbeat counts as fresh, and on
the local clock of the server.
-/

namespace Kanzan.Agents

open Sla

/-- `AgentStatus`. -/
inductive AgentStatus where
  | online
  | away
  | busy
  | offline
  deriving DecidableEq, Repr

/-- The entry of one weekday in `working_hours`. -/
structure DayHours where
  enabled : Bool := false
  start : Option String := none
  finish : Option String := none
  deriving DecidableEq, Repr

/-- The `AgentAvailability` row, without its user; `workingHours` has no entry for a weekday
that the JSON object leaves out. -/
structure AgentAvailability where
  status : AgentStatus := .offline
  maxConcurrentTickets : ℕ := 10
  currentTicketCount : ℕ := 0
  lastActivity : Option Instant := none
  lastSeen : Option Instant := none
  workingHours : ℤ → Option DayHours := fun _ => none
  autoAwayOutsideHours : Bool := false

/-- What the server is configured with. -/
structure Site where
  timeZone : ZoneInfo := .utc
  presenceTtlSeconds : ℤ := 90

/-- `"%H:%M"` of a reading. -/
def strftimeHM (wall : ℤ) : String :=
  let minutes := (wall % dayMicros / minuteMicros).toNat
  let digits := fun n : ℕ => (if n < 10 then "0" else "") ++ toString n
  digits (minutes / 60) ++ ":" ++ digits (minutes % 60)

namespace AgentAvailability

variable (site : Site) (now : Instant) (avail : AgentAvailability)

/-- `remaining_capacity`. -/
def remainingCapacity : ℕ := avail.maxConcurrentTickets - avail.currentTicketCount

/-- `presence_fresh`. -/
def presenceFresh : Bool :=
  match avail.lastSeen with
  | none => false
  | some seen => decide (now - seen ≤ site.presenceTtlSeconds * 1000000)

/-- `_within_working_hours`. -/
def withinWorkingHours : Bool :=
  let wall := site.timeZone.wall now
  match avail.workingHours (weekday wall) with
  | none => true
  | some day =>
    if !day.enabled then true
    else
      let current := strftimeHM wall
      let start := (day.start.filter (· ≠ "")).getD "00:00"
      let finish := (day.finish.filter (· ≠ "")).getD "23:59"
      decide (start ≤ current) && decide (current ≤ finish)

/-- `is_assignable`. -/
def isAssignable : Bool :=
  if avail.status ≠ .online then false
  else if avail.remainingCapacity = 0 then false
  else if !avail.presenceFresh site now then false
  else if avail.autoAwayOutsideHours && !avail.withinWorkingHours site now then false
  else true

/-- `current_ticket_count = F("current_ticket_count") + 1`, with `last_activity`. -/
def takeOn : AgentAvailability :=
  { avail with
    currentTicketCount := avail.currentTicketCount + 1
    lastActivity := some now }

def giveUp : AgentAvailability :=
  { avail with currentTicketCount := avail.currentTicketCount - 1 }

/-- Only `last_activity` is written. -/
def touch : AgentAvailability := { avail with lastActivity := some now }

theorem lt_of_isAssignable {site : Site} {now : Instant} {avail : AgentAvailability}
    (assignable : avail.isAssignable site now = true) :
    avail.currentTicketCount < avail.maxConcurrentTickets := by
  unfold isAssignable remainingCapacity at assignable
  split at assignable
  · cases assignable
  split at assignable
  · cases assignable
  · omega

end AgentAvailability

end Kanzan.Agents

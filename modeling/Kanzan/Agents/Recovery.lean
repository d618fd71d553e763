import Kanzan.Agents.Presence
import Kanzan.Support.Runs

/-!
# Recovery of presence

The history of one agent, one request after the other: heartbeats, ticks of the reaper and manual
changes.  An agent who wants to be online and whose heartbeat is fresh should be online; what the
reaper has moved to `away` stays there.
-/

namespace Kanzan.Agents

open Support
open Sla

/-- The row, the last reading of the clock, the last manual choice, and whether the reaper has moved
the agent since. -/
structure Timeline where
  row : Option PresenceRow
  clock : Instant
  chosen : Option AgentStatus
  reaped : Bool

inductive PresenceEvent where
  | heartbeat (isConnect : Bool) (held : ℕ)
  | tick
  | setStatus (payload : StatusPayload)
  | myStatus (payload : StatusPayload)

variable {row : PresenceRow}

namespace Timeline

variable (site : PresenceSite) (timeline : Timeline)

def start (clock : Instant) : Timeline where
  row := none
  clock := clock
  chosen := none
  reaped := false

/-- A manual change that was applied; a choice of a status makes a fresh start. -/
def choosing (payload : StatusPayload) (row : PresenceRow) : Timeline :=
  if site.accepts payload && payload.status.isSome then
    { timeline with
      row := some row
      chosen := payload.status
      reaped := false }
  else { timeline with row := some row }

def handle (now : Instant) : PresenceEvent → Timeline
  | .heartbeat isConnect held =>
    { timeline with row := some (site.handleLiveHeartbeat now isConnect held timeline.row) }
  | .tick =>
    { timeline with
      row := site.reapStalePresence now timeline.row
      reaped := timeline.reaped || timeline.row.any (site.isStale now) }
  | .setStatus payload =>
    match timeline.row with
    | none => timeline
    | some row => timeline.choosing site payload (site.applyStatusPayload now payload row)
  | .myStatus payload =>
    timeline.choosing site payload
      (site.applyStatusPayload now payload (PresenceSite.myStatus now timeline.row))

def step (timeline : Timeline) (event : PresenceEvent × Instant) : Timeline :=
  let now := max timeline.clock event.2
  { timeline with clock := now }.handle site now event.1

/-- The last manual choice was `online`, or none was made. -/
def Willing : Prop := timeline.chosen = none ∨ timeline.chosen = some .online

/-- A willing agent is online as long as the last heartbeat is fresh. -/
def Present : Prop :=
  timeline.Willing → ∀ row, timeline.row = some row → ∀ now, timeline.clock ≤ now →
    row.presenceFresh site.toSite now = true → row.status = .online

/-- No heartbeat comes while a willing agent is where the reaper has put him. -/
def Admits (event : PresenceEvent × Instant) : Prop :=
  match event.1 with
  | .heartbeat _ _ => timeline.Willing → timeline.reaped = true → site.ttl < 0
  | _ => True

/-! ## The invariant -/

/-- A row is online, or it is not fresh and waits for a manual choice or a first heartbeat. -/
structure Settled (row : PresenceRow) : Prop where
  stale : ∀ now, timeline.clock ≤ now → row.presenceFresh site.toSite now = false
  waits : row.status = .away ∧ timeline.reaped = true ∨ row.status = .offline

structure Inv : Prop where
  seen : ∀ row seen, timeline.row = some row → row.lastSeen = some seen → seen ≤ timeline.clock
  reaped : timeline.Willing → timeline.reaped = true →
    ∃ row, timeline.row = some row ∧ row.status = .away
  settled : timeline.Willing → ∀ row, timeline.row = some row →
    row.status = .online ∨ timeline.Settled site row

section Steps

variable {site : PresenceSite} {timeline : Timeline} {now : Instant}

theorem not_presenceFresh_of_all {later : Instant}
    (hall : row.lastSeen.all (· < now - site.ttl) = true) (hle : now ≤ later) :
    row.presenceFresh site.toSite later = false := by
  rw [AgentAvailability.presenceFresh]
  cases hseen : row.lastSeen with
  | none => rfl
  | some seen =>
    rw [hseen, Option.all_some, decide_eq_true_eq, PresenceSite.ttl] at hall
    refine decide_eq_false fun hfresh => ?_
    have hlater : later - site.presenceTtlSeconds * 1000000 ≤ seen := Int.sub_le_of_sub_le hfresh
    have hcutoff := Int.sub_le_sub_right hle (site.presenceTtlSeconds * 1000000)
    exact Int.lt_irrefl _ (Int.lt_of_lt_of_le hall (Int.le_trans hcutoff hlater))

theorem settled_mono {other : Timeline} {row' : PresenceRow} (settled : timeline.Settled site row)
    (hclock : timeline.clock ≤ other.clock) (hreaped : other.reaped = timeline.reaped)
    (hstatus : row'.status = row.status) (hseen : row'.lastSeen = row.lastSeen) :
    other.Settled site row' where
  stale now hle := by
    have hstale := settled.stale now (Int.le_trans hclock hle)
    rw [AgentAvailability.presenceFresh] at hstale ⊢
    rw [hseen]
    exact hstale
  waits := by
    rw [hstatus, hreaped]
    exact settled.waits

theorem inv_advance (inv : timeline.Inv site) (hle : timeline.clock ≤ now) :
    Inv site { timeline with clock := now } where
  seen row seen hrow hseen := Int.le_trans (inv.seen row seen hrow hseen) hle
  reaped := inv.reaped
  settled willing row hrow :=
    (inv.settled willing row hrow).imp_right fun settled => settled_mono settled hle rfl rfl rfl

/-- A heartbeat promotes, or finds the agent online, or does not matter to a negative TTL. -/
theorem inv_heartbeat (enabled : site.autoOnline = true) (inv : timeline.Inv site)
    (isConnect : Bool) (held : ℕ)
    (admits : timeline.Willing → timeline.reaped = true → site.ttl < 0) :
    (timeline.handle site timeline.clock (.heartbeat isConnect held)).Inv site where
  seen row seen hrow hseen := by
    obtain rfl := Option.some.inj hrow
    rw [handleLiveHeartbeat_lastSeen] at hseen
    exact Int.le_of_eq (Option.some.inj hseen).symm
  reaped willing hreaped := by
    obtain ⟨row, hrow, haway⟩ := inv.reaped willing hreaped
    refine ⟨_, rfl, ?_⟩
    rw [handleLiveHeartbeat_status, hrow]
    exact (promoted_of_ne (by rw [haway]; nofun)).trans haway
  settled willing row hrow := by
    obtain rfl := Option.some.inj hrow
    rw [handleLiveHeartbeat_status]
    cases hold : timeline.row with
    | none => exact Or.inl (if_pos enabled)
    | some old =>
      have htouched : (site.touchPresence timeline.clock (some old)).2.status =
          site.promoted old.status := rfl
      rw [htouched]
      rcases inv.settled willing old hold with honline | ⟨-, ⟨haway, hreaped⟩ | hoffline⟩
      · exact Or.inl ((promoted_of_ne (by rw [honline]; nofun)).trans honline)
      · refine Or.inr ⟨fun later hle => ?_, Or.inl ⟨?_, hreaped⟩⟩
        · have hnegative := admits willing hreaped
          refine not_presenceFresh_of_all ?_ hle
          rw [← hold, handleLiveHeartbeat_lastSeen, Option.all_some, decide_eq_true_eq]
          have hlt := Int.sub_lt_sub_left hnegative timeline.clock
          rwa [Int.sub_zero] at hlt
        · rw [handleLiveHeartbeat_status]
          exact (promoted_of_ne (by rw [haway]; nofun)).trans haway
      · left
        rw [PresenceSite.promoted, hoffline, enabled]
        rfl

/-- The reaper moves only what is stale. -/
theorem inv_tick (inv : timeline.Inv site) :
    (timeline.handle site timeline.clock .tick).Inv site where
  seen row seen hrow hseen := by
    obtain ⟨old, hold, rfl⟩ := Option.map_eq_some_iff.mp hrow
    refine inv.seen old seen hold ?_
    rw [← hseen]
    split
    · rfl
    · rfl
  reaped willing hreaped := by
    rcases (Bool.or_eq_true ..).mp hreaped with hbefore | hstale
    · obtain ⟨row, hrow, haway⟩ := inv.reaped willing hbefore
      have hkept : site.isStale timeline.clock row = false := by
        rw [PresenceSite.isStale, haway]
        rfl
      refine ⟨row, ?_, haway⟩
      simp only [handle, PresenceSite.reapStalePresence, hrow, Option.map_some, hkept,
        Bool.false_eq_true, if_false]
    · obtain ⟨row, hrow, hfound⟩ := (Option.any_eq_true ..).mp hstale
      refine ⟨PresenceSite.reap timeline.clock row, ?_, rfl⟩
      simp only [handle, PresenceSite.reapStalePresence, hrow, Option.map_some, hfound, if_true]
  settled willing row hrow := by
    obtain ⟨old, hold, rfl⟩ := Option.map_eq_some_iff.mp hrow
    cases hfound : site.isStale timeline.clock old with
    | true =>
      have hreaped :
          (timeline.reaped || timeline.row.any (site.isStale timeline.clock)) = true := by
        rw [hold, Option.any_some, hfound, Bool.or_true]
      rw [PresenceSite.isStale, Bool.and_eq_true] at hfound
      exact Or.inr ⟨fun later hle => not_presenceFresh_of_all hfound.2 hle, Or.inl ⟨rfl, hreaped⟩⟩
    | false =>
      have hreaped : (timeline.handle site timeline.clock .tick).reaped = timeline.reaped := by
        simp only [handle, hold, Option.any_some, hfound, Bool.or_false]
      rw [if_neg Bool.false_ne_true]
      rcases inv.settled willing old hold with honline | settled
      · exact Or.inl honline
      · exact Or.inr (settled_mono settled (Int.le_refl _) hreaped rfl rfl)

theorem inv_choosing (timeline : Timeline) (inv : Inv site { timeline with row := some row })
    (payload : StatusPayload) :
    (timeline.choosing site payload
      (site.applyStatusPayload timeline.clock payload row)).Inv site := by
  rw [choosing, PresenceSite.applyStatusPayload]
  cases haccepts : site.accepts payload with
  | false => exact inv
  | true =>
    rw [if_pos rfl, Bool.true_and]
    cases hstatus : payload.status with
    | some status =>
      constructor
      · intro chosen seen hrow hseen
        obtain rfl := Option.some.inj hrow
        exact inv.seen row seen rfl hseen
      · nofun
      · intro willing chosen hrow
        obtain rfl := Option.some.inj hrow
        left
        rcases willing with hnone | honline
        · cases hnone
        · rw [PresenceSite.choose, hstatus]
          exact Option.some.inj honline
    | none =>
      have hsame : (PresenceSite.choose timeline.clock payload row.customStatus row).status =
          row.status := by
        rw [PresenceSite.choose, hstatus]
        rfl
      constructor
      · intro chosen seen hrow hseen
        obtain rfl := Option.some.inj hrow
        exact inv.seen row seen rfl hseen
      · intro willing hreaped
        obtain ⟨old, hold, haway⟩ := inv.reaped willing hreaped
        obtain rfl := Option.some.inj hold
        exact ⟨_, rfl, hsame.trans haway⟩
      · intro willing chosen hrow
        obtain rfl := Option.some.inj hrow
        rcases inv.settled willing row rfl with honline | settled
        · exact Or.inl (hsame.trans honline)
        · exact Or.inr (settled_mono settled (Int.le_refl _) rfl hsame rfl)

/-- The row that `my-status` loads or creates. -/
theorem inv_myStatus (inv : timeline.Inv site) :
    Inv site { timeline with row := some (PresenceSite.myStatus timeline.clock timeline.row) } := by
  obtain ⟨current, clock, chosen, reaped⟩ := timeline
  cases current with
  | some row => exact inv
  | none =>
    constructor
    · intro row seen hcreated hseen
      obtain rfl := Option.some.inj hcreated
      cases hseen
    · intro willing hreaped
      obtain ⟨row, hold, -⟩ := inv.reaped willing hreaped
      cases hold
    · intro willing row hcreated
      obtain rfl := Option.some.inj hcreated
      exact Or.inr ⟨fun _ _ => rfl, Or.inr rfl⟩

theorem inv_step (enabled : site.autoOnline = true) (inv : timeline.Inv site)
    (event : PresenceEvent × Instant) (admits : timeline.Admits site event) :
    (timeline.step site event).Inv site := by
  obtain ⟨event, reading⟩ := event
  have hle : timeline.clock ≤ max timeline.clock reading := Int.le_max_left ..
  have advanced := inv_advance inv hle
  cases event with
  | heartbeat isConnect held => exact inv_heartbeat enabled advanced isConnect held admits
  | tick => exact inv_tick advanced
  | setStatus payload =>
    obtain ⟨current, clock, chosen, reaped⟩ := timeline
    cases current with
    | none => exact advanced
    | some row =>
      exact inv_choosing ⟨some row, max clock reading, chosen, reaped⟩ advanced payload
  | myStatus payload => exact inv_choosing _ (inv_myStatus advanced) payload

/-- A heartbeat that is not admitted leaves a fresh agent `away`. -/
theorem admits_of_present (inv : timeline.Inv site) (event : PresenceEvent × Instant)
    (present : (timeline.step site event).Present site) : timeline.Admits site event := by
  obtain ⟨event, reading⟩ := event
  cases event with
  | tick => trivial
  | setStatus payload => trivial
  | myStatus payload => trivial
  | heartbeat isConnect held =>
    intro willing hreaped
    by_contra hnonneg
    obtain ⟨row, hrow, haway⟩ := inv.reaped willing hreaped
    have hfresh : (site.handleLiveHeartbeat (max timeline.clock reading) isConnect held
        timeline.row).presenceFresh site.toSite (max timeline.clock reading) = true := by
      rw [AgentAvailability.presenceFresh, handleLiveHeartbeat_lastSeen]
      refine decide_eq_true ?_
      rw [sub_self]
      exact Int.not_lt.mp hnonneg
    have honline := present willing _ rfl _ (Int.le_refl _) hfresh
    rw [handleLiveHeartbeat_status, hrow] at honline
    have hkept : site.promoted row.status = .away :=
      (promoted_of_ne (by rw [haway]; nofun)).trans haway
    cases hkept.symm.trans honline

theorem present_of_inv (inv : timeline.Inv site) : timeline.Present site := by
  intro willing row hrow later hle hfresh
  rcases inv.settled willing row hrow with honline | settled
  · exact honline
  · rw [settled.stale later hle] at hfresh
    cases hfresh

theorem inv_start (clock : Instant) : (start clock).Inv site where
  seen := nofun
  reaped := nofun
  settled := nofun

end Steps

/--
With auto-online, a willing agent with a fresh heartbeat is online throughout a history exactly if
no heartbeat comes while the agent is where the reaper has put him.
-/
theorem always_present_iff (site : PresenceSite) (clock : Instant)
    (events : List (PresenceEvent × Instant)) :
    Always (step { site with autoOnline := true }) (Present { site with autoOnline := true })
        (start clock) events ↔
      Every (step { site with autoOnline := true }) (Admits { site with autoOnline := true })
        (start clock) events :=
  always_iff_every (fun (timeline : Timeline) (inv : Inv _ timeline) => present_of_inv inv)
    (fun _ event inv admits => inv_step rfl inv event admits)
    (fun _ event inv present => admits_of_present inv event present) (inv_start clock) events

/-- An agent connects, is reaped after the TTL, and reconnects. -/
theorem not_always_present :
    ¬Always (step {}) (Present {}) (start 0)
      [(.heartbeat true 0, 0), (.tick, 91000000), (.heartbeat true 0, 100000000)] := by
  intro always
  have honline := always.finish (Or.inl rfl) _ rfl 100000000 (by decide) (by decide +kernel)
  revert honline
  decide +kernel

/-! ## A reaped agent -/

/-- Neither a heartbeat nor a tick is a manual change. -/
def Automatic (_ : Timeline) (event : PresenceEvent × Instant) : Prop :=
  match event.1 with
  | .heartbeat _ _ => True
  | .tick => True
  | _ => False

/-- The row shows `away`. -/
def IsAway (timeline : Timeline) : Prop :=
  ∃ row, timeline.row = some row ∧ row.status = .away

theorem isAway_step (site : PresenceSite) {timeline : Timeline} (away : timeline.IsAway)
    (event : PresenceEvent × Instant) (automatic : timeline.Automatic event) :
    (timeline.step site event).IsAway := by
  obtain ⟨row, hrow, haway⟩ := away
  obtain ⟨event, reading⟩ := event
  cases event with
  | heartbeat isConnect held =>
    refine ⟨_, rfl, ?_⟩
    rw [handleLiveHeartbeat_status, hrow]
    exact (promoted_of_ne (by rw [haway]; nofun)).trans haway
  | tick =>
    have hkept : site.isStale (max timeline.clock reading) row = false := by
      rw [PresenceSite.isStale, haway]
      rfl
    refine ⟨row, ?_, haway⟩
    simp only [step, handle, PresenceSite.reapStalePresence, hrow, Option.map_some, hkept,
      Bool.false_eq_true, if_false]
  | setStatus payload => exact automatic.elim
  | myStatus payload => exact automatic.elim

/-- Until the next manual change he stays `away` and unassignable, however often he reconnects. -/
theorem not_isAssignable_of_automatic (site : PresenceSite) {timeline : Timeline}
    (away : timeline.IsAway) (events : List (PresenceEvent × Instant))
    (automatic : Every (step site) Automatic timeline events) :
    ∃ row, (run (step site) timeline events).row = some row ∧ row.status = .away ∧
      ∀ now, row.isAssignable site.toSite now = false := by
  obtain ⟨row, hrow, haway⟩ := run_invariant IsAway
    (fun _ event away automatic => isAway_step site away event automatic) away events automatic
  refine ⟨row, hrow, haway, fun now => ?_⟩
  rw [AgentAvailability.isAssignable, if_pos (by rw [haway]; nofun)]

theorem not_isAssignable_of_automatic_reconnect :
    ∃ row, (run (step {}) { start 0 with row := some { status := .away, updatedAt := 0 } }
        [(.heartbeat true 0, 5), (.tick, 9)]).row = some row ∧ row.status = .away ∧
      ∀ now, row.isAssignable {} now = false :=
  not_isAssignable_of_automatic {} ⟨_, rfl, rfl⟩ _ ⟨trivial, trivial, trivial⟩

end Timeline

end Kanzan.Agents

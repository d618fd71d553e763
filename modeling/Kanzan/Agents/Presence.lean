import Kanzan.Agents.Availability

/-!
# Presence

The row of one agent as live sockets, the reaper and the agent himself write it.  Each writer reads
the row first; what it reads and what it writes are separate functions here, and the functions of
the source are their compositions.
-/

namespace Kanzan.Agents

open Sla

/-- The availability row with the columns of the status menu. -/
structure PresenceRow extends AgentAvailability where
  customStatus : Option ℕ := none
  updatedAt : Instant

/-- What the server is configured with, and the custom statuses that can be chosen. -/
structure PresenceSite extends Site where
  autoOnline : Bool := true
  activeStatuses : ℕ → Bool := fun _ => true

/-- A request to `set-status` or `my-status`; the serializer asks for one of the two. -/
structure StatusPayload where
  status : Option AgentStatus := none
  customStatusId : Option (Option ℕ) := none
  provided : status.isSome || customStatusId.isSome := by decide

namespace PresenceSite

variable (site : PresenceSite) (now : Instant)

def ttl : Instant := site.presenceTtlSeconds * 1000000

/-! ## Heartbeats -/

def seenFirst : PresenceRow where
  status := if site.autoOnline then .online else .offline
  lastSeen := some now
  lastActivity := some now
  updatedAt := now

def promoted (old : AgentStatus) : AgentStatus :=
  if site.autoOnline && old = .offline then .online else old

/-- The `update` of `touch_presence`. -/
def stamp (status : AgentStatus) (row : PresenceRow) : PresenceRow :=
  { row with
    status := status
    lastSeen := some now
    lastActivity := some now
    updatedAt := now }

/-- `touch_presence`: the change of status to broadcast, and the row. -/
def touchPresence : Option PresenceRow → Option (AgentStatus × AgentStatus) × PresenceRow
  | none => (if site.autoOnline then some (.offline, .online) else none, site.seenFirst now)
  | some row =>
    let status := site.promoted row.status
    (if status ≠ row.status then some (row.status, status) else none, stamp now status row)

/-! ## The reaper -/

/-- Whether the query of `reap_stale_presence` selects the row. -/
def isStale (row : PresenceRow) : Bool :=
  row.status = .online && row.lastSeen.all (· < now - site.ttl)

/-- The `update` of `reap_stale_presence`. -/
def reap (row : PresenceRow) : PresenceRow :=
  { row with
    status := .away
    updatedAt := now }

/-- `reap_stale_presence` on the row of one agent. -/
def reapStalePresence (row : Option PresenceRow) : Option PresenceRow :=
  row.map fun row => if site.isStale now row then reap now row else row

/-! ## Manual changes -/

/-- The `get_or_create` of `my-status`. -/
def myStatus (row : Option PresenceRow) : PresenceRow :=
  row.getD
    { status := .offline
      updatedAt := now }

/-- The value `save` writes to `custom_status`, by the one that was loaded; nothing if the column is
not among the `update_fields`. -/
def customUpdate (payload : StatusPayload) (loaded : Option ℕ) : Option (Option ℕ) :=
  if payload.status.isSome && (payload.customStatusId.getD loaded).isSome then some none
  else payload.customStatusId

/-- The save of `_apply_status_payload`. -/
def choose (payload : StatusPayload) (loaded : Option ℕ) (row : PresenceRow) : PresenceRow :=
  { row with
    status := payload.status.getD row.status
    customStatus := (customUpdate payload loaded).getD row.customStatus
    lastActivity := some now
    updatedAt := now }

def accepts (payload : StatusPayload) : Bool :=
  (payload.customStatusId.bind id).all site.activeStatuses

/-- `_apply_status_payload` on a loaded row; a request for an unknown custom status raises. -/
def applyStatusPayload (payload : StatusPayload) (row : PresenceRow) : PresenceRow :=
  if site.accepts payload then choose now payload row.customStatus row else row

/-! ## Draining -/

def takeHeld (row : PresenceRow) : PresenceRow :=
  if row.isAssignable site.toSite now then
    { row with
      toAgentAvailability := row.takeOn now
      updatedAt := now }
  else row

/-- `_maybe_drain`, seen from the row of the agent, when `held` emails of the backlog wait. -/
def maybeDrain (held : ℕ) (row : PresenceRow) : PresenceRow :=
  if row.isAssignable site.toSite now then
    (List.range (min held row.remainingCapacity)).foldl (fun row _ => site.takeHeld now row) row
  else row

/-- `handle_live_heartbeat`. -/
def handleLiveHeartbeat (isConnect : Bool) (held : ℕ) (row : Option PresenceRow) : PresenceRow :=
  let touched := site.touchPresence now row
  if isConnect || touched.1.isSome then site.maybeDrain now held touched.2 else touched.2

end PresenceSite

section Laws

variable {site : PresenceSite} {now : Instant}

theorem promoted_of_ne {old : AgentStatus} (hne : old ≠ .offline) : site.promoted old = old := by
  simp [PresenceSite.promoted, hne]

variable (site now) in
theorem takeHeld_status_lastSeen (row : PresenceRow) :
    (site.takeHeld now row).status = row.status ∧
      (site.takeHeld now row).lastSeen = row.lastSeen := by
  rw [PresenceSite.takeHeld]
  split
  · exact ⟨rfl, rfl⟩
  · exact ⟨rfl, rfl⟩

theorem maybeDrain_status_lastSeen (held : ℕ) (row : PresenceRow) :
    (site.maybeDrain now held row).status = row.status ∧
      (site.maybeDrain now held row).lastSeen = row.lastSeen := by
  have hfold : ∀ (turns : List ℕ) (row : PresenceRow),
      (turns.foldl (fun row _ => site.takeHeld now row) row).status = row.status ∧
        (turns.foldl (fun row _ => site.takeHeld now row) row).lastSeen = row.lastSeen := by
    intro turns
    induction turns with
    | nil => exact fun row => ⟨rfl, rfl⟩
    | cons turn rest ih =>
      intro row
      have hone := takeHeld_status_lastSeen site now row
      rw [List.foldl_cons, ← hone.1, ← hone.2]
      exact ih _
  rw [PresenceSite.maybeDrain]
  split
  · exact hfold _ row
  · exact ⟨rfl, rfl⟩

theorem handleLiveHeartbeat_status (isConnect : Bool) (held : ℕ) (row : Option PresenceRow) :
    (site.handleLiveHeartbeat now isConnect held row).status =
      (site.touchPresence now row).2.status := by
  rw [PresenceSite.handleLiveHeartbeat]
  split
  · exact (maybeDrain_status_lastSeen held _).1
  · rfl

theorem handleLiveHeartbeat_lastSeen (isConnect : Bool) (held : ℕ) (row : Option PresenceRow) :
    (site.handleLiveHeartbeat now isConnect held row).lastSeen = some now := by
  have hseen : (site.touchPresence now row).2.lastSeen = some now := by
    cases row with
    | none => rfl
    | some row => rfl
  rw [PresenceSite.handleLiveHeartbeat]
  split
  · exact (maybeDrain_status_lastSeen held _).2.trans hseen
  · exact hseen

end Laws

end Kanzan.Agents

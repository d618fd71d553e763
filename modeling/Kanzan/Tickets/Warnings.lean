import Kanzan.Tickets.Escalations

/-!
# Warnings before a breach

A scan warns the assignee of a ticket when one of its two deadlines is less than a quarter of an
hour away.  It looks up the tickets that have been warned of since midnight, whatever deadline it
was about.
-/

namespace Kanzan.Tickets

open Sla Support

/-! ## The scan -/

/-- A `Notification` of type `SLA_BREACH` whose data has the warning flag. -/
structure SlaWarning where
  ticket : ℕ
  recipient : ℕ
  breachType : Target
  minutesRemaining : ℤ
  createdAt : Instant
  deriving DecidableEq

/-- `now.replace(hour=0, minute=0, second=0, microsecond=0)`. -/
def todayStart (now : Instant) : Instant := now - now % dayMicros

def utcDay (now : Instant) : ℤ := now / dayMicros

def warningWindow : Instant := 15 * minuteMicros

/-- A deadline that the ticket has neither met nor been found to miss. -/
def Target.isOpen : Target → Ticket → Bool
  | .firstResponse, ticket => !ticket.slaResponseBreached && ticket.firstRespondedAt.isNone
  | .resolution, ticket => !ticket.slaResolutionBreached && ticket.resolvedAt.isNone

def approaching (now : Instant) (target : Target) (ticket : Ticket) : Bool :=
  (target.due ticket).any (fun due => decide (now < due ∧ due ≤ now + warningWindow)) &&
    target.isOpen ticket && !ticket.isDeleted && !ticket.status.isClosed

/-- A scan: its moment, the tickets that its queries find, and when it writes each warning. -/
structure WarningScan where
  now : Instant
  tickets : Db
  createdAt : Target → ℕ → Instant
  now_le : ∀ target id, now ≤ createdAt target id

/-- `already_warned_ids`. -/
def alreadyWarned (now : Instant) (sent : List SlaWarning) (id : ℕ) : Bool :=
  sent.any fun warning => warning.ticket == id && decide (todayStart now ≤ warning.createdAt)

namespace WarningScan

variable (scan : WarningScan) (sent : List SlaWarning) (target : Target)

def warn (id : ℕ) : Option SlaWarning :=
  match scan.tickets.tickets id with
  | none => none
  | some ticket =>
    match ticket.assignee, target.due ticket with
    | some assignee, some due =>
      if approaching scan.now target ticket && !alreadyWarned scan.now sent id then
        some
          { ticket := id
            recipient := assignee
            breachType := target
            minutesRemaining := (due - scan.now) / minuteMicros
            createdAt := scan.createdAt target id }
      else none
    | _, _ => none

/-- The loop over the tickets of one query, each of which is a row once. -/
def warnings : List SlaWarning := scan.tickets.ticketIds.dedup.filterMap (scan.warn sent target)

end WarningScan

/-- `_check_tenant_sla_warnings`. -/
def checkTenantSlaWarnings (sent : List SlaWarning) (scan : WarningScan) : List SlaWarning :=
  sent ++ (scan.warnings sent .firstResponse ++ scan.warnings sent .resolution)

/-! ## What the scans are to do -/

def OncePerDay (sent : List SlaWarning) : Prop :=
  (sent.map fun warning => (warning.ticket, warning.breachType, utcDay warning.createdAt)).Nodup

def WarnedOn (sent : List SlaWarning) (now : Instant) (id : ℕ) (target : Target) : Prop :=
  ∃ warning ∈ sent, warning.ticket = id ∧ warning.breachType = target ∧
    utcDay warning.createdAt = utcDay now

/-- The deadline of an assigned ticket is inside its window. -/
structure Due (scan : WarningScan) (id : ℕ) (target : Target) (assignee : ℕ) : Prop where
  listed : id ∈ scan.tickets.ticketIds
  stored : ∃ ticket, scan.tickets.tickets id = some ticket ∧ ticket.assignee = some assignee ∧
    approaching scan.now target ticket = true

/-- The assignee is warned of every deadline that is due and has not been warned of. -/
def Warns (sent : List SlaWarning) (scan : WarningScan) : Prop :=
  ∀ id target assignee, Due scan id target assignee → ¬WarnedOn sent scan.now id target →
    ∃ warning ∈ scan.warnings sent target, warning.ticket = id ∧ warning.recipient = assignee ∧
      warning.breachType = target

theorem OncePerDay.nil : OncePerDay [] := List.nodup_nil

/-- A ticket that has been warned of on the day has been warned of for the deadline that is due. -/
def Unshared (sent : List SlaWarning) (scan : WarningScan) : Prop :=
  ∀ id target assignee, Due scan id target assignee →
    ∀ other, WarnedOn sent scan.now id other → WarnedOn sent scan.now id target

def Sequential (sent : List SlaWarning) (scan : WarningScan) : Prop :=
  ∀ warning ∈ sent, warning.createdAt ≤ scan.now

section Scans

variable {scan : WarningScan} {sent : List SlaWarning} {target : Target} {id : ℕ}
  {warning : SlaWarning}

theorem utcDay_mono {first last : Instant} (hle : first ≤ last) : utcDay first ≤ utcDay last :=
  Int.ediv_le_ediv (by decide) hle

theorem todayStart_le_iff {now written : Instant} (hle : written ≤ now) :
    todayStart now ≤ written ↔ utcDay written = utcDay now := by
  have hpos : 0 < dayMicros := by decide
  have hstart : todayStart now = utcDay now * dayMicros := by
    have hsplit := Int.emod_add_ediv_mul now dayMicros
    unfold todayStart utcDay
    linarith
  rw [hstart, ← Int.le_ediv_iff_mul_le hpos]
  constructor
  · intro hday
    exact Int.le_antisymm (utcDay_mono hle) hday
  · intro hsame
    exact Int.le_of_eq hsame.symm

theorem alreadyWarned_iff (sequential : Sequential sent scan) :
    alreadyWarned scan.now sent id = true ↔ ∃ other, WarnedOn sent scan.now id other := by
  unfold alreadyWarned WarnedOn
  rw [List.any_eq_true]
  constructor
  · rintro ⟨warning, hsent, hmeets⟩
    rw [Bool.and_eq_true, beq_iff_eq, decide_eq_true_eq] at hmeets
    exact ⟨warning.breachType, warning, hsent, hmeets.1, rfl,
      (todayStart_le_iff (sequential warning hsent)).mp hmeets.2⟩
  · rintro ⟨other, warning, hsent, hticket, -, hday⟩
    refine ⟨warning, hsent, ?_⟩
    rw [Bool.and_eq_true, beq_iff_eq, decide_eq_true_eq]
    exact ⟨hticket, (todayStart_le_iff (sequential warning hsent)).mpr hday⟩

theorem warn_eq_some (hwarns : scan.warn sent target id = some warning) :
    warning.ticket = id ∧ warning.breachType = target ∧
      warning.createdAt = scan.createdAt target id ∧
        alreadyWarned scan.now sent id = false := by
  unfold WarningScan.warn at hwarns
  split at hwarns
  · cases hwarns
  split at hwarns
  · split at hwarns
    · rename_i hmeets
      rw [Bool.and_eq_true, Bool.not_eq_true'] at hmeets
      rw [← Option.some.inj hwarns]
      exact ⟨rfl, rfl, rfl, hmeets.2⟩
    · cases hwarns
  · cases hwarns

theorem mem_warnings :
    warning ∈ scan.warnings sent target ↔
      ∃ id ∈ scan.tickets.ticketIds, scan.warn sent target id = some warning := by
  unfold WarningScan.warnings
  simp only [List.mem_filterMap, List.mem_dedup]

theorem warn_of_due {assignee : ℕ} (due : Due scan id target assignee) :
    (∃ warning ∈ scan.warnings sent target, warning.ticket = id ∧ warning.recipient = assignee ∧
      warning.breachType = target) ↔ alreadyWarned scan.now sent id = false := by
  constructor
  · rintro ⟨warning, hmem, rfl, -, -⟩
    obtain ⟨id, -, hwarns⟩ := mem_warnings.mp hmem
    obtain ⟨hticket, -, -, hfresh⟩ := warn_eq_some hwarns
    rwa [hticket]
  · intro hfresh
    obtain ⟨ticket, hrow, hassignee, happroaching⟩ := due.stored
    have hdue : (target.due ticket).isSome := by
      unfold approaching at happroaching
      cases hnone : target.due ticket with
      | none => simp [hnone] at happroaching
      | some moment => rfl
    obtain ⟨moment, hmoment⟩ := Option.isSome_iff_exists.mp hdue
    have hwarns : scan.warn sent target id = some
        { ticket := id
          recipient := assignee
          breachType := target
          minutesRemaining := (moment - scan.now) / minuteMicros
          createdAt := scan.createdAt target id } := by
      unfold WarningScan.warn
      rw [hrow]
      dsimp only
      rw [hassignee, hmoment]
      dsimp only
      rw [happroaching, hfresh]
      rfl
    exact ⟨_, mem_warnings.mpr ⟨id, due.listed, hwarns⟩, rfl, rfl, rfl⟩

theorem warns_iff (sequential : Sequential sent scan) : Warns sent scan ↔ Unshared sent scan := by
  constructor
  · intro warns id target assignee due other hother
    by_contra hnot
    have hfresh := (warn_of_due due).mp (warns id target assignee due hnot)
    rw [(alreadyWarned_iff sequential).mpr ⟨other, hother⟩] at hfresh
    cases hfresh
  · intro unshared id target assignee due hnot
    refine (warn_of_due due).mpr (Bool.eq_false_iff.mpr fun halready => hnot ?_)
    obtain ⟨other, hother⟩ := (alreadyWarned_iff sequential).mp halready
    exact unshared id target assignee due other hother

/-! ## Once a day -/

theorem warnings_nodup : ((scan.warnings sent target).map SlaWarning.ticket).Nodup :=
  (List.nodup_dedup scan.tickets.ticketIds).sublist
    (map_filterMap_sublist (fun _ _ hwarns => (warn_eq_some hwarns).1) _)

theorem warnings_keys_nodup : OncePerDay (scan.warnings sent target) := by
  have hticket := @warnings_nodup scan sent target
  refine List.Nodup.of_map Prod.fst ?_
  rw [List.map_map]
  exact hticket

theorem warnings_day_ne (sequential : Sequential sent scan) {old : SlaWarning} (hold : old ∈ sent)
    (hnew : warning ∈ scan.warnings sent target) (hticket : old.ticket = warning.ticket) :
    utcDay old.createdAt ≠ utcDay warning.createdAt := by
  obtain ⟨id, -, hwarns⟩ := mem_warnings.mp hnew
  obtain ⟨hid, -, hcreated, hfresh⟩ := warn_eq_some hwarns
  intro hday
  have hbefore := sequential old hold
  have hafter : scan.now ≤ warning.createdAt := by
    rw [hcreated]
    exact scan.now_le target id
  have hnow : utcDay old.createdAt = utcDay scan.now :=
    Int.le_antisymm (utcDay_mono hbefore) (hday ▸ utcDay_mono hafter)
  have halready := (alreadyWarned_iff sequential).mpr
    ⟨old.breachType, old, hold, hticket.trans hid, rfl, hnow⟩
  rw [hfresh] at halready
  cases halready

theorem step_oncePerDay (once : OncePerDay sent) (sequential : Sequential sent scan) :
    OncePerDay (checkTenantSlaWarnings sent scan) := by
  unfold OncePerDay checkTenantSlaWarnings
  rw [List.map_append, List.map_append]
  refine List.nodup_append.mpr ⟨once, List.nodup_append.mpr
    ⟨warnings_keys_nodup, warnings_keys_nodup, ?_⟩, ?_⟩
  · rintro key hfirst last hlast rfl
    obtain ⟨first, hmem, rfl⟩ := List.mem_map.mp hfirst
    obtain ⟨second, hmem', hkey⟩ := List.mem_map.mp hlast
    obtain ⟨_, -, hwarns⟩ := mem_warnings.mp hmem
    obtain ⟨_, -, hwarns'⟩ := mem_warnings.mp hmem'
    have htarget : second.breachType = first.breachType := congrArg (fun key => key.2.1) hkey
    rw [(warn_eq_some hwarns).2.1, (warn_eq_some hwarns').2.1] at htarget
    cases htarget
  · rintro key hkey last hlast rfl
    obtain ⟨old, hold, rfl⟩ := List.mem_map.mp hkey
    have hday : ∀ target, ∀ warning ∈ scan.warnings sent target,
        (warning.ticket, warning.breachType, utcDay warning.createdAt) ≠
          (old.ticket, old.breachType, utcDay old.createdAt) := by
      intro target warning hmem hsame
      have hticket : warning.ticket = old.ticket := congrArg Prod.fst hsame
      have hdays : utcDay warning.createdAt = utcDay old.createdAt :=
        congrArg (fun key => key.2.2) hsame
      exact warnings_day_ne sequential hold hmem hticket.symm hdays.symm
    rcases List.mem_append.mp hlast with hlast | hlast
    all_goals
      obtain ⟨warning, hmem, hsame⟩ := List.mem_map.mp hlast
      exact hday _ warning hmem hsame

end Scans

/--
Over any sequence of scans no deadline is warned of twice on a day, and the scans warn of every
deadline that is due exactly as long as the two deadlines of a ticket do not share a day.
-/
theorem checkTenantSlaWarnings_iff {sent : List SlaWarning} (once : OncePerDay sent)
    {scans : List WarningScan} (sequential : Every checkTenantSlaWarnings Sequential sent scans) :
    Always checkTenantSlaWarnings OncePerDay sent scans ∧
      (Every checkTenantSlaWarnings Warns sent scans ↔
        Every checkTenantSlaWarnings Unshared sent scans) :=
  ⟨always_of_invariant OncePerDay (fun _ once => once)
      (fun _ _ once sequential => step_oncePerDay once sequential) once scans sequential,
    sequential.congr fun _ _ sequential => warns_iff sequential⟩

/-! ## Two deadlines on a day -/

/-- An open ticket whose response is due in ten minutes and whose resolution is due in thirty. -/
def hurriedTicket : Ticket where
  status := { pk := 0, name := "Open", slug := "open", order := 10, isDefault := true }
  assignee := some 3
  createdBy := 1
  createdAt := 0
  updatedAt := 0
  slaFirstResponseDue := some 600000000
  slaResolutionDue := some 1800000000

/-- A scan that finds the ticket as it is, and writes without delay. -/
def hurriedScan (now : Instant) : WarningScan where
  now := now
  tickets := { tickets := fun id => if id = 7 then some hurriedTicket else none, ticketIds := [7] }
  createdAt := fun _ _ => now
  now_le := fun _ _ => Int.le_refl now

def responseWarning : SlaWarning where
  ticket := 7
  recipient := 3
  breachType := .firstResponse
  minutesRemaining := 10
  createdAt := 0

theorem hurriedScan_sent : checkTenantSlaWarnings [] (hurriedScan 0) = [responseWarning] := by
  decide

theorem hurriedScans_sequential :
    Every checkTenantSlaWarnings Sequential [] [hurriedScan 0, hurriedScan 1200000000] := by
  refine ⟨fun _ hsent => absurd hsent List.not_mem_nil, ?_, trivial⟩
  intro warning hsent
  rw [hurriedScan_sent] at hsent
  rw [List.mem_singleton.mp hsent]
  decide

/-- The warning of the response is the last on that day. -/
theorem checkTenantSlaWarnings_iff_hurried :
    Always checkTenantSlaWarnings OncePerDay [] [hurriedScan 0, hurriedScan 1200000000] ∧
      (Every checkTenantSlaWarnings Warns [] [hurriedScan 0, hurriedScan 1200000000] ↔
        Every checkTenantSlaWarnings Unshared [] [hurriedScan 0, hurriedScan 1200000000]) :=
  checkTenantSlaWarnings_iff .nil hurriedScans_sequential

/-- The resolution is due twenty minutes later, and nobody is warned of it. -/
theorem not_checkTenantSlaWarnings_warns :
    ¬ ∀ (sent : List SlaWarning) (scans : List WarningScan), OncePerDay sent →
      Every checkTenantSlaWarnings Sequential sent scans →
      Always checkTenantSlaWarnings OncePerDay sent scans ∧
        Every checkTenantSlaWarnings Warns sent scans := by
  intro hall
  have hwarns := (hall [] [hurriedScan 0, hurriedScan 1200000000] .nil
    hurriedScans_sequential).2.2.1
  rw [hurriedScan_sent] at hwarns
  have due : Due (hurriedScan 1200000000) 7 .resolution 3 :=
    ⟨List.mem_singleton_self 7, hurriedTicket, rfl, rfl, by decide⟩
  have hnot : ¬WarnedOn [responseWarning] (hurriedScan 1200000000).now 7 .resolution := by
    rintro ⟨warning, hmem, -, htarget, -⟩
    rw [List.mem_singleton.mp hmem] at htarget
    cases htarget
  obtain ⟨warning, hmem, -⟩ := hwarns 7 .resolution 3 due hnot
  rw [show (hurriedScan 1200000000).warnings [responseWarning] .resolution = [] by decide] at hmem
  cases hmem

end Kanzan.Tickets

import Kanzan.Tickets.Deadlines
import Kanzan.Tickets.Detectors
import Kanzan.Tickets.Resave

/-!
# Compliance with the policies

The reports count a ticket as compliant by the plain time since its creation.  The deadline that is
stored with it runs in business hours, and the pauses of the clock put it off.
-/

namespace Kanzan.Analytics

open Sla Support
open Tickets (Workspace SLAPolicy Priority Schedule Timed closesLate keepsClock sinceRestart)

/-! ## The reports -/

/-- `round((part / whole) * 100, digits)`. -/
def percentage (digits part whole : ℕ) : ℚ :=
  roundHalfEven ((part : ℚ) / whole * 100 * 10 ^ digits) / 10 ^ digits

def stampedWithin (minutes : ℕ) (createdAt : Instant) (stamp : Option Instant) : Bool :=
  stamp.any fun instant => decide (instant ≤ createdAt + minutes * minuteMicros)

def resolvedWithin (policy : SLAPolicy) (ticket : Tickets.Ticket) : Bool :=
  stampedWithin policy.resolutionMinutes ticket.createdAt ticket.resolvedAt

def respondedWithin (policy : SLAPolicy) (ticket : Tickets.Ticket) : Bool :=
  stampedWithin policy.firstResponseMinutes ticket.createdAt ticket.firstRespondedAt

/-- The rates of one policy; its key stands for its name. -/
structure PolicyCompliance where
  policy : ℕ
  priority : Priority
  totalTickets : ℕ
  compliantTickets : ℕ
  complianceRate : ℚ
  responseCompliantTickets : ℕ
  responseComplianceRate : ℚ
  responseBreachedCount : ℕ
  resolutionBreachedCount : ℕ
deriving DecidableEq

/-- One pass of the loop of `get_sla_compliance`. -/
def complianceFor (policy : SLAPolicy) (baseQs : List Tickets.Ticket) : PolicyCompliance :=
  let priorityTickets := baseQs.filter fun ticket => ticket.priority == policy.priority
  let total := priorityTickets.length
  if total = 0 then
    { policy := policy.pk
      priority := policy.priority
      totalTickets := 0
      compliantTickets := 0
      complianceRate := 100
      responseCompliantTickets := 0
      responseComplianceRate := 100
      responseBreachedCount := 0
      resolutionBreachedCount := 0 }
  else
    let resolutionCompliant := (priorityTickets.filter (resolvedWithin policy)).length
    let responded := (priorityTickets.filter fun ticket => ticket.firstRespondedAt.isSome).length
    let responseCompliant := (priorityTickets.filter (respondedWithin policy)).length
    { policy := policy.pk
      priority := policy.priority
      totalTickets := total
      compliantTickets := resolutionCompliant
      complianceRate := percentage 2 resolutionCompliant total
      responseCompliantTickets := responseCompliant
      responseComplianceRate :=
        if 0 < responded then percentage 2 responseCompliant responded else 100
      responseBreachedCount :=
        (priorityTickets.filter fun ticket => ticket.slaResponseBreached).length
      resolutionBreachedCount :=
        (priorityTickets.filter fun ticket => ticket.slaResolutionBreached).length }

/-- The dates that a report is asked for. -/
structure DateRange where
  dateFrom : Option Instant := none
  dateTo : Option Instant := none

/-- Whether `get_sla_compliance` looks at a ticket. -/
def DateRange.selects (range : DateRange) (ticket : Tickets.Ticket) : Bool :=
  !ticket.isDeleted && (range.dateFrom.all fun dateFrom => decide (dateFrom ≤ ticket.createdAt)) &&
    (range.dateTo.all fun dateTo => decide (ticket.createdAt ≤ dateTo))

/-- `get_sla_compliance`. -/
def getSlaCompliance (ws : Workspace) (range : DateRange) (tickets : List Tickets.Ticket) :
    List PolicyCompliance :=
  (ws.policies.filter SLAPolicy.isActive).map fun policy =>
    complianceFor policy (tickets.filter range.selects)

/-- An aware `datetime`, with the midnight that `replace` turns it into. -/
structure Moment where
  utc : Instant
  dayStart : Instant

/-- What `get_hourly_trends` is asked for; only a restricted viewer is told apart. -/
structure TrendQuery where
  now : Moment
  dateFrom : Option Moment := none
  dateTo : Option Moment := none
  viewer : Option ℕ := none

def TrendQuery.effective (query : TrendQuery) : Moment × Moment :=
  match query.dateFrom, query.dateTo with
  | some dateFrom, some dateTo => (dateFrom, dateTo)
  | _, _ => (⟨query.now.dayStart, query.now.dayStart⟩, query.now)

def TrendQuery.selects (query : TrendQuery) (ticket : Tickets.Ticket) : Bool :=
  let effFrom := query.effective.1
  let effTo := query.effective.2
  !ticket.isDeleted &&
    (query.viewer.all fun user => ticket.assignee == some user || ticket.createdBy == user) &&
    if (effTo.utc - effFrom.utc) / dayMicros < 1 then
      decide (effFrom.dayStart ≤ ticket.createdAt) &&
        decide (ticket.createdAt < effFrom.dayStart + dayMicros)
    else decide (effFrom.utc ≤ ticket.createdAt) && decide (ticket.createdAt ≤ effTo.utc)

def totalSla (ws : Workspace) (query : TrendQuery) (tickets : List Tickets.Ticket) : ℕ :=
  ((ws.policies.filter SLAPolicy.isActive).map fun policy =>
    ((tickets.filter query.selects).filter fun ticket =>
      ticket.priority == policy.priority).length).sum

def compliantSla (ws : Workspace) (query : TrendQuery) (tickets : List Tickets.Ticket) : ℕ :=
  ((ws.policies.filter SLAPolicy.isActive).map fun policy =>
    (((tickets.filter query.selects).filter fun ticket =>
      ticket.priority == policy.priority).filter (resolvedWithin policy)).length).sum

/-- The `sla_resolution_pct` of `get_hourly_trends`. -/
def slaResolutionPct (ws : Workspace) (query : TrendQuery) (tickets : List Tickets.Ticket) :
    Option ℚ :=
  let total := totalSla ws query tickets
  if 0 < total then some (percentage 1 (compliantSla ws query tickets) total) else none

/-! ## What they count -/

def Counts (number : List Tickets.Ticket → ℕ) (ticket : Tickets.Ticket) : Prop :=
  ∀ before after, number (before ++ ticket :: after) = number (before ++ after) + 1

def compliantBy (ws : Workspace) (range : DateRange) (policy : SLAPolicy)
    (read : PolicyCompliance → ℕ) (tickets : List Tickets.Ticket) : ℕ :=
  (((getSlaCompliance ws range tickets).find? fun row => row.policy == policy.pk).map read).getD 0

section Counts

variable {ws : Workspace} {range : DateRange} {query : TrendQuery} {policy : SLAPolicy}
variable {ticket : Tickets.Ticket}

theorem length_filter_insert (condition : Tickets.Ticket → Bool)
    (before after : List Tickets.Ticket) :
    ((before ++ ticket :: after).filter condition).length =
      ((before ++ after).filter condition).length + (condition ticket).toNat := by
  rw [List.filter_append, List.filter_append, List.length_append, List.length_append,
    List.filter_cons]
  cases condition ticket with
  | false => rfl
  | true => exact (Nat.add_assoc _ _ _).symm

theorem counts_length_filter (condition : Tickets.Ticket → Bool) :
    Counts (fun tickets => (tickets.filter condition).length) ticket ↔
      condition ticket = true := by
  unfold Counts
  simp only [length_filter_insert, Nat.add_left_cancel_iff, Bool.toNat_eq_one]
  exact ⟨fun hticket => hticket [] [], fun hticket _ _ => hticket⟩

theorem compliantBy_eq (hpolicy : policy ∈ ws.policies) (hactive : policy.isActive = true)
    (read : PolicyCompliance → ℕ) (tickets : List Tickets.Ticket) :
    compliantBy ws range policy read tickets =
      read (complianceFor policy (tickets.filter range.selects)) := by
  have hkey : ∀ other, (complianceFor other (tickets.filter range.selects)).policy = other.pk := by
    intro other
    unfold complianceFor
    dsimp only
    split <;> rfl
  have hmem := List.mem_filter.mpr ⟨hpolicy, hactive⟩
  have hfound : (ws.policies.filter SLAPolicy.isActive).find? (fun other =>
      other.pk == policy.pk) = some policy := by
    cases hfind : (ws.policies.filter SLAPolicy.isActive).find? (fun other =>
      other.pk == policy.pk) with
    | none => exact absurd (beq_self_eq_true policy.pk) (List.find?_eq_none.mp hfind policy hmem)
    | some other =>
      have hother := List.mem_filter.mp (List.mem_of_find?_eq_some hfind)
      have hpk : other.pk = policy.pk := by simpa using List.find?_some hfind
      rw [ws.policy_ext hother.1 hpolicy hpk]
  rw [compliantBy, getSlaCompliance, List.find?_map]
  simp only [Function.comp_def, hkey, hfound, Option.map_some, Option.getD_some]

variable (policy) in
theorem complianceFor_compliantTickets (baseQs : List Tickets.Ticket) :
    (complianceFor policy baseQs).compliantTickets =
      (baseQs.filter fun ticket =>
        resolvedWithin policy ticket && ticket.priority == policy.priority).length := by
  unfold complianceFor
  dsimp only
  rw [← List.filter_filter]
  split
  · rename_i hnone
    rw [List.length_eq_zero_iff.mp hnone]
    rfl
  · rfl

variable (policy) in
theorem complianceFor_responseCompliantTickets (baseQs : List Tickets.Ticket) :
    (complianceFor policy baseQs).responseCompliantTickets =
      (baseQs.filter fun ticket =>
        respondedWithin policy ticket && ticket.priority == policy.priority).length := by
  unfold complianceFor
  dsimp only
  rw [← List.filter_filter]
  split
  · rename_i hnone
    rw [List.length_eq_zero_iff.mp hnone]
    rfl
  · rfl

theorem counts_compliantBy_iff (hpolicy : policy ∈ ws.policies) (hactive : policy.isActive = true)
    (hselected : range.selects ticket = true) (hpriority : ticket.priority = policy.priority)
    {read : PolicyCompliance → ℕ} {within : Tickets.Ticket → Bool}
    (hread : ∀ baseQs, read (complianceFor policy baseQs) =
      (baseQs.filter fun ticket => within ticket && ticket.priority == policy.priority).length) :
    Counts (compliantBy ws range policy read) ticket ↔ within ticket = true := by
  have hnumber : compliantBy ws range policy read = fun tickets => (tickets.filter fun ticket =>
      (within ticket && ticket.priority == policy.priority) && range.selects ticket).length := by
    funext tickets
    rw [compliantBy_eq hpolicy hactive, hread, List.filter_filter]
  rw [hnumber, counts_length_filter]
  simp [hselected, hpriority]

theorem counts_compliantSla_iff (hpolicy : policy ∈ ws.policies)
    (hactive : policy.isActive = true) (hselected : query.selects ticket = true)
    (hpriority : ticket.priority = policy.priority) :
    Counts (compliantSla ws query) ticket ↔ resolvedWithin policy ticket = true := by
  have hmem := List.mem_filter.mpr ⟨hpolicy, hactive⟩
  have hnodup : (ws.policies.filter SLAPolicy.isActive).Nodup :=
    (List.Nodup.of_map _ ws.policies_pk).filter _
  let condition : SLAPolicy → Tickets.Ticket → Bool := fun other ticket =>
    resolvedWithin other ticket && (ticket.priority == other.priority && query.selects ticket)
  have hnumber : ∀ tickets, compliantSla ws query tickets =
      ((ws.policies.filter SLAPolicy.isActive).map fun other =>
        (tickets.filter (condition other)).length).sum := by
    intro tickets
    simp only [compliantSla, List.filter_filter, condition]
  have hsingle : ((ws.policies.filter SLAPolicy.isActive).map fun other =>
      (condition other ticket).toNat).sum = (resolvedWithin policy ticket).toNat := by
    rw [List.sum_map_eq_nsmul_single policy, List.count_eq_one_of_mem hnodup hmem, one_nsmul]
    · simp [condition, hselected, hpriority]
    · intro other hother hactiveOther
      have hdiffer : ticket.priority ≠ other.priority := fun hsame =>
        hother (List.inj_on_of_nodup_map ws.policies_priority (List.mem_filter.mp hactiveOther).1
          hpolicy (hsame.symm.trans hpriority))
      simp [condition, hdiffer]
  unfold Counts
  simp only [hnumber, length_filter_insert, List.sum_map_add, hsingle, Nat.add_left_cancel_iff,
    Bool.toNat_eq_one]
  exact ⟨fun hticket => hticket [] [], fun hticket _ _ => hticket⟩

end Counts

/-! ## The verdicts -/

/--
An instant lies on the same side of a stored deadline as of the plain limit.  Around the clock the
pauses alone put the deadline off; in business hours it is the deadline of the granted time and of
the pauses.
-/
def SameVerdict (tenant : Tenant) (createdAt : Instant) (granted : ℤ)
    (pauses : List (Instant × Instant)) (instant : Instant) : Prop :=
  match getBusinessConfig tenant with
  | none =>
    ¬ (createdAt + granted < instant ∧
      instant ≤ createdAt + granted + (pauses.map (pausedMicros tenant)).sum)
  | some config =>
    ∃ due, Extended config createdAt (granted :: pauses.map (pausedMicros tenant)) due ∧
      (due < instant ↔ createdAt + granted < instant)

theorem sum_pausedMicros_nonneg (tenant : Tenant) (pauses : List (Instant × Instant)) :
    0 ≤ (pauses.map (pausedMicros tenant)).sum := by
  apply List.sum_nonneg
  intro micros hmicros
  obtain ⟨pause, -, rfl⟩ := List.mem_map.mp hmicros
  exact le_max_left 0 _

/-- A deadline set at the creation and put off by the pauses decides as the plain limit does. -/
theorem sameVerdict_iff (tenant : Tenant) (createdAt : Instant) (minutes : ℕ)
    (pauses : List (Instant × Instant)) (instant : Instant) :
    (instant ≤ createdAt + minutes * minuteMicros ↔
        instant ≤ dueAfter tenant createdAt minutes pauses) ↔
      SameVerdict tenant createdAt (minutes * minuteMicros) pauses instant := by
  rw [SameVerdict, ← not_lt, ← not_lt, not_iff_not]
  cases hconfig : getBusinessConfig tenant with
  | none =>
    have hpaused := sum_pausedMicros_nonneg tenant pauses
    have hlimits : ∀ limit delay moment : ℤ, 0 ≤ delay →
        ((limit < moment ↔ limit + delay < moment) ↔
          ¬ (limit < moment ∧ moment ≤ limit + delay)) := by
      intro limit delay moment hdelay
      omega
    rw [dueAfter_of_none hconfig]
    exact hlimits _ _ _ hpaused
  | some config =>
    have extended := dueAfter_of_some hconfig createdAt minutes pauses
    constructor
    · intro hsame
      exact ⟨_, extended, hsame.symm⟩
    · rintro ⟨due, other, hsame⟩
      rw [extended.unique other]
      exact hsame.symm

theorem stampedWithin_some (minutes : ℕ) (createdAt instant : Instant) :
    stampedWithin minutes createdAt (some instant) = true ↔
      instant ≤ createdAt + minutes * minuteMicros := by
  rw [stampedWithin, Option.any_some, decide_eq_true_eq]

/-- A ticket without a breach on record, as the breach check has to meet it. -/
def unflagged (ticket : Tickets.Ticket) : Tickets.Ticket :=
  { ticket with slaResolutionBreached := false }

/-- Both reports, the breach check and the stored deadlines agree about a ticket. -/
structure ReportsAgree (ws : Workspace) (range : DateRange) (query : TrendQuery)
    (policy : SLAPolicy) (ticket : Tickets.Ticket) : Prop where
  resolution : ∀ resolvedAt, ticket.resolvedAt = some resolvedAt →
    ∃ due, ticket.slaResolutionDue = some due ∧
      (closesLate (unflagged ticket) resolvedAt = false ↔ resolvedAt ≤ due) ∧
      (Counts (compliantBy ws range policy PolicyCompliance.compliantTickets) ticket ↔
        resolvedAt ≤ due) ∧
      (Counts (compliantSla ws query) ticket ↔ resolvedAt ≤ due)
  response : ∀ firstRespondedAt, ticket.firstRespondedAt = some firstRespondedAt →
    ∃ due, ticket.slaFirstResponseDue = some due ∧
      (Counts (compliantBy ws range policy PolicyCompliance.responseCompliantTickets) ticket ↔
        firstRespondedAt ≤ due)

/-- The resolution and the first response of a ticket are on the same sides of both limits. -/
structure SameVerdicts (ws : Workspace) (policy : SLAPolicy) (pauses : List (Instant × Instant))
    (ticket : Tickets.Ticket) : Prop where
  resolution : ∀ resolvedAt, ticket.resolvedAt = some resolvedAt →
    SameVerdict ws.toTenant ticket.createdAt (policy.resolutionMinutes * minuteMicros) pauses
      resolvedAt
  response : ∀ firstRespondedAt, ticket.firstRespondedAt = some firstRespondedAt →
    SameVerdict ws.toTenant ticket.createdAt (policy.firstResponseMinutes * minuteMicros) pauses
      firstRespondedAt

section Verdicts

variable {ws : Workspace} {range : DateRange} {query : TrendQuery} {policy : SLAPolicy}
variable {ticket : Tickets.Ticket} {pauses : List (Instant × Instant)}

/-- The reports are right about a ticket whose deadlines are on the clock exactly where the plain
limits come to the same. -/
theorem reportsAgree_iff (hpolicy : policy ∈ ws.policies) (hactive : policy.isActive = true)
    (hpriority : ticket.priority = policy.priority) (hreported : range.selects ticket = true)
    (hperiod : query.selects ticket = true)
    (hresponse : ticket.slaFirstResponseDue =
      some (dueAfter ws.toTenant ticket.createdAt policy.firstResponseMinutes pauses))
    (hresolution : ticket.slaResolutionDue =
      some (dueAfter ws.toTenant ticket.createdAt policy.resolutionMinutes pauses)) :
    ReportsAgree ws range query policy ticket ↔ SameVerdicts ws policy pauses ticket := by
  have hcompliant := counts_compliantBy_iff hpolicy hactive hreported hpriority
    (complianceFor_compliantTickets policy)
  have hresponded := counts_compliantBy_iff hpolicy hactive hreported hpriority
    (complianceFor_responseCompliantTickets policy)
  have htrends := counts_compliantSla_iff hpolicy hactive hperiod hpriority
  constructor
  · rintro ⟨resolution, response⟩
    refine ⟨fun resolvedAt hresolved => ?_, fun firstRespondedAt hstamped => ?_⟩
    · obtain ⟨due, hdue, -, hreport, -⟩ := resolution resolvedAt hresolved
      obtain rfl := Option.some.inj (hresolution.symm.trans hdue)
      rw [hcompliant, resolvedWithin, hresolved, stampedWithin_some] at hreport
      exact (sameVerdict_iff _ _ _ _ _).mp hreport
    · obtain ⟨due, hdue, hreport⟩ := response firstRespondedAt hstamped
      obtain rfl := Option.some.inj (hresponse.symm.trans hdue)
      rw [hresponded, respondedWithin, hstamped, stampedWithin_some] at hreport
      exact (sameVerdict_iff _ _ _ _ _).mp hreport
  · rintro ⟨resolution, response⟩
    refine ⟨fun resolvedAt hresolved => ?_, fun firstRespondedAt hstamped => ?_⟩
    · have hsame := (sameVerdict_iff _ _ _ _ _).mpr (resolution resolvedAt hresolved)
      have hdue : (unflagged ticket).slaResolutionDue = some _ := hresolution
      have hlate := Tickets.closesLate_iff rfl hdue resolvedAt
      refine ⟨_, hresolution, ?_, ?_, ?_⟩
      · rw [← Bool.not_eq_true, hlate, not_lt]
      · rwa [hcompliant, resolvedWithin, hresolved, stampedWithin_some]
      · rwa [htrends, resolvedWithin, hresolved, stampedWithin_some]
    · have hsame := (sameVerdict_iff _ _ _ _ _).mpr (response firstRespondedAt hstamped)
      refine ⟨_, hresponse, ?_⟩
      rwa [hresponded, respondedWithin, hstamped, stampedWithin_some]

end Verdicts

/-- A ticket waits for an hour on a Friday morning, and is closed a quarter of an hour after the
reply. -/
def closedAfterWait : List Tickets.Event :=
  Tickets.morningWait ++
    [ { op := .closeTicket 0,
        req := { clock := ⟨128700000000, 128700000000, 128700000000, 128700000000⟩ } } ]

/-- The trends of that day. -/
def fridayTrends : TrendQuery := { now := ⟨129600000000, 86400000000⟩ }

/-- Its deadline was put off till noon; the reports hold it to eleven. -/
theorem closedAfterWait_row :
    ∃ row, (run (Tickets.step .office) Tickets.Db.empty closedAfterWait).tickets 0 = some row ∧
      (row.slaPolicy = some 1 ∧ row.priority = .medium ∧ DateRange.selects {} row = true ∧
        fridayTrends.selects row = true) ∧
      row.resolvedAt = some 128700000000 ∧ row.slaResolutionDue = some 129600000000 ∧
      resolvedWithin Tickets.officePolicy row = false := by
  have hread : ((run (Tickets.step .office) Tickets.Db.empty closedAfterWait).tickets 0).map
      (fun row => ((row.slaPolicy, row.priority, DateRange.selects {} row,
        fridayTrends.selects row), row.resolvedAt, row.slaResolutionDue)) =
      some ((some 1, .medium, true, true), some 128700000000, some 129600000000) := by
    decide +kernel
  have hwithin : ((run (Tickets.step .office) Tickets.Db.empty closedAfterWait).tickets 0).all
      (resolvedWithin Tickets.officePolicy) = false := by
    decide +kernel
  obtain ⟨row, hrow, hfields⟩ := Option.map_eq_some_iff.mp hread
  rw [hrow, Option.all_some] at hwithin
  simp only [Prod.mk.injEq] at hfields
  exact ⟨row, hrow, hfields.1, hfields.2.1, hfields.2.2, hwithin⟩

end Kanzan.Analytics

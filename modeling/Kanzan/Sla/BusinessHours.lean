import Kanzan.Sla.Clock

/-!
# Business hours

The configuration rows behind the SLA clock and the two loops that read them:
`countBusinessMinutes` measures a span, `addBusinessMinutes` walks forward to a
deadline.  Both work on wall-clock readings of the tenant's zone.
-/

namespace Kanzan.Sla

/-! ## Configuration rows -/

structure DaySchedule where
  isActive : Bool
  openTime : Time
  closeTime : Time
  deriving DecidableEq, Repr

/-- The `BusinessHours` row of a tenant; the schedule is keyed by weekday. -/
structure BusinessHours where
  timezone : String
  schedule : ℤ → Option DaySchedule

/-- `get_day_config`: whether the day is active, and its opening and closing times. -/
def BusinessHours.getDayConfig (bh : BusinessHours) (day : ℤ) :
    Bool × Option Time × Option Time :=
  match bh.schedule day with
  | none => (false, none, none)
  | some entry =>
    if entry.isActive then (true, some entry.openTime, some entry.closeTime)
    else (false, none, none)

/-- The fields of the `TenantSettings` row that the ticket code reads. -/
structure TenantSettings where
  timezone : String
  businessHoursStart : Time
  businessHoursEnd : Time
  businessDays : List ℤ
  autoTransitionOnAssign : Bool := true
  autoAssignInboundEmailTickets : Bool := false

/-- A tenant with its settings row, its business-hours row, its public holidays as
day numbers, and the zone database of the host. -/
structure Tenant where
  slug : String := ""
  settings : Option TenantSettings
  businessHours : Option BusinessHours
  publicHolidays : List ℤ
  zones : String → Option ZoneInfo

/-- `_get_tz`: an unknown name stands for UTC. -/
def getTz (tenant : Tenant) (name : String) : ZoneInfo := (tenant.zones name).getD .utc

/-- The normalised configuration returned by `_get_business_config`. -/
structure BusinessConfig where
  tz : ZoneInfo
  days : ℤ → Option (Time × Time)
  holidayDates : List ℤ

/-- The active days of a `BusinessHours` row with a nonempty opening window. -/
def BusinessHours.days (bh : BusinessHours) (day : ℤ) : Option (Time × Time) :=
  match bh.getDayConfig day with
  | (true, some openT, some closeT) => if openT < closeT then some (openT, closeT) else none
  | _ => none

/-- `_get_business_config`; `none` is the 24/7 mode. -/
def getBusinessConfig (tenant : Tenant) : Option BusinessConfig :=
  match tenant.businessHours with
  | some bh =>
    if (List.range 7).all (fun day => (bh.days day).isNone) then none
    else some
      { tz := getTz tenant bh.timezone
        days := bh.days
        holidayDates := tenant.publicHolidays }
  | none =>
    match tenant.settings with
    | none => none
    | some settings =>
      if settings.businessDays = [] ∨
          ¬ settings.businessHoursStart < settings.businessHoursEnd then none
      else some
        { tz := getTz tenant settings.timezone
          days := fun day =>
            if day ∈ settings.businessDays then
              some (settings.businessHoursStart, settings.businessHoursEnd)
            else none
          holidayDates := tenant.publicHolidays }

/-! ## Measuring a span -/

/-- The `while current < end_local` loop of `_count_business_minutes`.  Each pass
handles one day and moves on to the next midnight. -/
def countLoop (config : BusinessConfig) (endLocal : ℤ) : ℕ → ℤ → Minutes → Minutes
  | 0, _, total => total
  | fuel + 1, current, total =>
    if current < endLocal then
      if date current ∈ config.holidayDates then
        countLoop config endLocal fuel (nextMidnight current) total
      else
        match config.days (weekday current) with
        | none => countLoop config endLocal fuel (nextMidnight current) total
        | some (openT, closeT) =>
          let dayStart := replaceTime current openT
          let dayEnd := replaceTime current closeT
          let windowStart := max current dayStart
          let windowEnd := min endLocal dayEnd
          let total :=
            if windowStart < windowEnd then
              total + totalMinutes (windowEnd - windowStart)
            else total
          countLoop config endLocal fuel (nextMidnight current) total
    else total

def daysSpanned (startLocal endLocal : ℤ) : ℕ := (date endLocal - date startLocal).toNat + 1

/-- `_count_business_minutes`. -/
def countBusinessMinutes (startUtc endUtc : Instant) (config : BusinessConfig) : Minutes :=
  let startLocal := config.tz.wall startUtc
  let endLocal := config.tz.wall endUtc
  if endLocal ≤ startLocal then 0
  else countLoop config endLocal (daysSpanned startLocal endLocal) startLocal 0

/-! ## Walking to a deadline -/

/-- The search loop of `_next_business_day_start`, over successive midnights. -/
def nextBusinessDayLoop (config : BusinessConfig) : ℕ → ℤ → ℤ
  | 0, candidate => candidate
  | fuel + 1, candidate =>
    if date candidate ∉ config.holidayDates then
      match config.days (weekday candidate) with
      | some (openT, _) => replaceTime candidate openT
      | none => nextBusinessDayLoop config fuel (candidate + dayMicros)
    else nextBusinessDayLoop config fuel (candidate + dayMicros)

/-- `_next_business_day_start`; adding a day to a datetime clears its fold. -/
def nextBusinessDayStart (config : BusinessConfig) (current : LocalTime) : LocalTime :=
  ⟨nextBusinessDayLoop config 365 (nextMidnight current.wall), false⟩

/-- `if current < day_start: current = day_start`. -/
def awaitOpening (current : LocalTime) (openT : Time) : LocalTime :=
  let dayStart := replaceTime current.wall openT
  if current.wall < dayStart then { current with wall := dayStart } else current

/-- The loop of `_add_business_minutes`: the reading reached and the minutes that
are still to be added when the loop gives up. -/
def addLoop (config : BusinessConfig) : ℕ → LocalTime → Minutes → LocalTime × Minutes
  | 0, current, remaining => (current, remaining)
  | fuel + 1, current, remaining =>
    if remaining ≤ 0 then (current, remaining)
    else if date current.wall ∈ config.holidayDates then
      addLoop config fuel (nextBusinessDayStart config current) remaining
    else
      match config.days (weekday current.wall) with
      | none => addLoop config fuel (nextBusinessDayStart config current) remaining
      | some (openT, closeT) =>
        let dayEnd := replaceTime current.wall closeT
        let current := awaitOpening current openT
        if dayEnd ≤ current.wall then
          addLoop config fuel (nextBusinessDayStart config current) remaining
        else
          let available := totalMinutes (dayEnd - current.wall)
          if remaining ≤ available then
            addLoop config fuel ⟨current.wall + timedeltaMinutes remaining, false⟩ 0
          else
            addLoop config fuel (nextBusinessDayStart config current)
              (remaining - available)

/-- The safety limit of `_add_business_minutes`. -/
def addLoopLimit : ℕ := 365 * 24

/-- The local reading and the leftover minutes at which `_add_business_minutes` stops. -/
def addBusinessMinutesLocal (startUtc : Instant) (minutes : Minutes)
    (config : BusinessConfig) : LocalTime × Minutes :=
  addLoop config addLoopLimit (config.tz.fromUtc startUtc) minutes

/-- `_add_business_minutes`. -/
def addBusinessMinutesIn (startUtc : Instant) (minutes : Minutes)
    (config : BusinessConfig) : Instant :=
  config.tz.toUtc (addBusinessMinutesLocal startUtc minutes config).1

/-! ## Entry points -/

/-- `add_business_minutes`. -/
def addBusinessMinutes (startUtc : Instant) (minutes : Minutes) (tenant : Tenant) : Instant :=
  match getBusinessConfig tenant with
  | none => startUtc + timedeltaMinutes minutes
  | some config => addBusinessMinutesIn startUtc minutes config

/-- `_resolve_tenant` on a tenant: one without a settings row is not recognised. -/
def resolveTenant (tenant : Tenant) : Option Tenant :=
  if tenant.settings.isSome then some tenant else none

/-- `elapsed_business_minutes` on a tenant. -/
def elapsedBusinessMinutes (startUtc endUtc : Instant) (tenant : Tenant) : Minutes :=
  match resolveTenant tenant with
  | none => totalMinutes (endUtc - startUtc)
  | some tenant =>
    match getBusinessConfig tenant with
    | none => totalMinutes (endUtc - startUtc)
    | some config => countBusinessMinutes startUtc endUtc config

end Kanzan.Sla

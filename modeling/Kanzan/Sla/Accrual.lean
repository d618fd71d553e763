import Kanzan.Sla.Counting
import Kanzan.Support.Results

/-!
# Being open and accruing

Whether business hours are on at an instant is asked of one function, and whether business time
accrues there is seen from another.  The first compares whole times of day, the second cuts the
opening and closing times to minutes.  A schedule is taken here as `BusinessHours.clean` admits it:
its times may carry an offset of their own.
-/

namespace Kanzan.Sla

open Support BusinessConfig

/-! ## Times as they are written -/

/-- What `datetime.time.fromisoformat` returns. -/
structure IsoTime where
  time : Time
  utcoffset : Option ℤ := none
  deriving DecidableEq, Repr

inductive TypeError where
  | offsetNaiveAndAware
  deriving DecidableEq, Repr

def TypeError.message : TypeError → String
  | .offsetNaiveAndAware => "can't compare offset-naive and offset-aware times"

namespace IsoTime

def apart (a b : IsoTime) : Except TypeError ℤ :=
  match a.utcoffset, b.utcoffset with
  | none, none => .ok (a.time.micros - b.time.micros)
  | some x, some y => .ok (a.time.micros - x - (b.time.micros - y))
  | _, _ => .error .offsetNaiveAndAware

/-- `a < b`. -/
def less (a b : IsoTime) : Except TypeError Bool := do
  let apart ← a.apart b
  return decide (apart < 0)

/-- `a <= b`. -/
def atMost (a b : IsoTime) : Except TypeError Bool := do
  let apart ← a.apart b
  return decide (apart ≤ 0)

end IsoTime

/-- The opening and the closing time of an active day, which have passed `open_t < close_t`. -/
structure Opening where
  openTime : IsoTime
  closeTime : IsoTime
  ordered : openTime.less closeTime = .ok true

structure IsoDay where
  isActive : Bool
  openTime : IsoTime
  closeTime : IsoTime

/-- A `BusinessHours` row with its times as they are written. -/
structure IsoHours where
  timezone : String
  schedule : ℤ → Option IsoDay

/-- One pass of the loop over the week in `_get_business_config`. -/
def IsoHours.opening (bh : IsoHours) (day : ℤ) : Except TypeError (Option Opening) :=
  match bh.schedule day with
  | none => .ok none
  | some entry =>
    if entry.isActive then
      match hless : entry.openTime.less entry.closeTime with
      | .ok true => .ok (some ⟨entry.openTime, entry.closeTime, hless⟩)
      | .ok false => .ok none
      | .error raised => .error raised
    else .ok none

structure IsoConfig where
  tz : ZoneInfo
  days : ℤ → Option Opening
  holidayDates : List ℤ

/-- The opening hours of `TenantSettings`, whose times carry no offset. -/
def settingsOpening (settings : TenantSettings)
    (hordered : settings.businessHoursStart < settings.businessHoursEnd) : Opening where
  openTime := ⟨settings.businessHoursStart, none⟩
  closeTime := ⟨settings.businessHoursEnd, none⟩
  ordered := by
    have hlt : settings.businessHoursStart.micros - settings.businessHoursEnd.micros < 0 :=
      sub_neg.mpr hordered
    simp [IsoTime.less, IsoTime.apart, bind, Except.bind, pure, Except.pure, hlt]

/-- `_get_business_config`; the tenant's own row of business hours is given beside it. -/
def isoConfig (hours : Option IsoHours) (tenant : Tenant) : Except TypeError (Option IsoConfig) :=
  match hours with
  | some bh =>
    match (List.range 7).mapM fun (day : ℕ) => bh.opening day with
    | .error raised => .error raised
    | .ok days =>
      if days.all Option.isNone then .ok none
      else .ok <| some
        { tz := getTz tenant bh.timezone
          days := fun day => (bh.opening day).toOption.join
          holidayDates := tenant.publicHolidays }
  | none =>
    match tenant.settings with
    | none => .ok none
    | some settings =>
      if settings.businessDays = [] then .ok none
      else if hordered : settings.businessHoursStart < settings.businessHoursEnd then
        .ok <| some
          { tz := getTz tenant settings.timezone
            days := fun day =>
              if day ∈ settings.businessDays then some (settingsOpening settings hordered)
              else none
            holidayDates := tenant.publicHolidays }
      else .ok none

/-- What `replace(hour=open_t.hour, minute=open_t.minute, …)` reads of a configuration. -/
def IsoConfig.clock (config : IsoConfig) : BusinessConfig where
  tz := config.tz
  days day := (config.days day).map fun opening => (opening.openTime.time, opening.closeTime.time)
  holidayDates := config.holidayDates

/-! ## The two functions -/

/-- `local_dt.time()`. -/
def timeOfDay (wall : ℤ) : Time where
  hour := ⟨(wall % dayMicros / 3600000000).toNat, by unfold dayMicros; omega⟩
  minute := ⟨(wall % dayMicros / minuteMicros % 60).toNat, by unfold dayMicros minuteMicros; omega⟩
  second := ⟨(wall % dayMicros / 1000000 % 60).toNat, by unfold dayMicros; omega⟩
  microsecond := ⟨(wall % dayMicros % 1000000).toNat, by unfold dayMicros; omega⟩

def IsoConfig.openingAt (config : IsoConfig) (wall : ℤ) : Option Opening :=
  if date wall ∈ config.holidayDates then none else config.days (weekday wall)

/-- `open_t <= current_time < close_t`. -/
def Opening.contains (opening : Opening) (now : IsoTime) : Except TypeError Bool := do
  if ← opening.openTime.atMost now then now.less opening.closeTime else return false

/-- `is_within_business_hours`. -/
def isWithinBusinessHours (dt : Instant) (hours : Option IsoHours) (tenant : Tenant) :
    Except TypeError Bool := do
  match ← isoConfig hours tenant with
  | none => return true
  | some config =>
    let wall := config.tz.wall dt
    match config.openingAt wall with
    | none => return false
    | some opening => opening.contains ⟨timeOfDay wall, none⟩

/-- `elapsed_business_minutes`. -/
def elapsedMinutes (startUtc endUtc : Instant) (hours : Option IsoHours) (tenant : Tenant) :
    Except TypeError Minutes :=
  match resolveTenant tenant with
  | none => .ok (totalMinutes (endUtc - startUtc))
  | some tenant => do
    match ← isoConfig hours tenant with
    | none => return totalMinutes (endUtc - startUtc)
    | some config => return countBusinessMinutes startUtc endUtc config.clock

/-- Business time runs at an instant: a short enough span from there counts in full. -/
def Accrues (dt : Instant) (hours : Option IsoHours) (tenant : Tenant) : Prop :=
  ∃ short : ℤ, 0 < short ∧ ∀ span, 0 < span → span ≤ short →
    elapsedMinutes dt (dt + span) hours tenant = .ok (totalMinutes span)

/-! ## What each of them looks at -/

variable {config : IsoConfig} {opening : Opening}

theorem isoConfig_tz {hours : Option IsoHours} {tenant : Tenant}
    (hconfig : isoConfig hours tenant = .ok (some config)) :
    ∃ name, config.tz = getTz tenant name := by
  unfold isoConfig at hconfig
  split at hconfig
  · rename_i bh
    split at hconfig
    · cases hconfig
    · split at hconfig
      · cases hconfig
      · rw [← Option.some.inj (Except.ok.inj hconfig)]
        exact ⟨bh.timezone, rfl⟩
  · split at hconfig
    · cases hconfig
    · rename_i settings hsettings
      split at hconfig
      · cases hconfig
      · split at hconfig
        · rw [← Option.some.inj (Except.ok.inj hconfig)]
          exact ⟨settings.timezone, rfl⟩
        · cases hconfig

theorem micros_timeOfDay (wall : ℤ) : (timeOfDay wall).micros = wall % dayMicros := by
  simp only [timeOfDay, Time.micros, dayMicros, minuteMicros]
  omega

theorem reading_eq (wall : ℤ) : wall = date wall * dayMicros + (timeOfDay wall).micros := by
  rw [micros_timeOfDay, mul_comm]
  exact (Int.mul_ediv_add_emod wall dayMicros).symm

theorem Time.minuteStart_le_micros (t : Time) : t.minuteStart ≤ t.micros := by
  unfold Time.minuteStart Time.micros minuteMicros
  omega

theorem Opening.utcoffset_eq_none_iff (opening : Opening) :
    opening.openTime.utcoffset = none ↔ opening.closeTime.utcoffset = none := by
  have hordered := opening.ordered
  cases hopen : opening.openTime.utcoffset with
  | none =>
    cases hclose : opening.closeTime.utcoffset with
    | none => simp
    | some offset =>
      simp [IsoTime.less, IsoTime.apart, hopen, hclose, bind, Except.bind] at hordered
  | some offset =>
    cases hclose : opening.closeTime.utcoffset with
    | none => simp [IsoTime.less, IsoTime.apart, hopen, hclose, bind, Except.bind] at hordered
    | some offset => simp

theorem Opening.contains_of_naive (hnaive : opening.openTime.utcoffset = none) (now : Time) :
    opening.contains ⟨now, none⟩ = .ok (decide
      (opening.openTime.time.micros ≤ now.micros ∧ now.micros < opening.closeTime.time.micros)) := by
  have hclose := opening.utcoffset_eq_none_iff.mp hnaive
  simp only [contains, IsoTime.atMost, IsoTime.less, IsoTime.apart, hnaive, hclose, bind,
    Except.bind, pure, Except.pure]
  by_cases hopen : opening.openTime.time.micros ≤ now.micros
  · simp [hopen]
  · simp [hopen]

theorem Opening.contains_of_aware (haware : opening.openTime.utcoffset ≠ none) (now : Time) :
    opening.contains ⟨now, none⟩ = .error .offsetNaiveAndAware := by
  obtain ⟨offset, hoffset⟩ := Option.ne_none_iff_exists'.mp haware
  simp [contains, IsoTime.atMost, IsoTime.apart, hoffset, bind, Except.bind]

theorem IsoConfig.clock_open_iff (config : IsoConfig) (wall : ℤ) :
    config.clock.Open wall ↔ ∃ opening, config.openingAt wall = some opening ∧
      opening.openTime.time.minuteStart ≤ (timeOfDay wall).micros ∧
        (timeOfDay wall).micros < opening.closeTime.time.minuteStart := by
  have hreading := reading_eq wall
  by_cases hholiday : date wall ∈ config.holidayDates
  · simp [Open, dayWindow, clock, openingAt, hholiday]
  · cases hday : config.days (weekday wall) with
    | none => simp [Open, dayWindow, clock, openingAt, hholiday, hday]
    | some opening =>
      simp only [Open, dayWindow, clock, openingAt, hholiday, hday, if_false, Option.map_some,
        replaceTime, Option.some.injEq, exists_eq_left']
      constructor
      · rintro ⟨hopen, hclose⟩
        exact ⟨by linarith, by linarith⟩
      · rintro ⟨hopen, hclose⟩
        exact ⟨by linarith, by linarith⟩

theorem short_span_counts_iff {p : ℤ → Prop} [DecidablePred p] (wall : ℤ) :
    (∃ short : ℤ, 0 < short ∧ ∀ span, 0 < span → span ≤ short →
      ticks p wall (wall + span) = span) ↔ p wall := by
  constructor
  · rintro ⟨short, hpositive, hcounts⟩
    have hone := hcounts 1 one_pos hpositive
    by_contra hclosed
    rw [ticks_eq_zero] at hone
    · exact zero_ne_one hone
    · intro x hlow hhigh
      rwa [le_antisymm (Int.lt_add_one_iff.mp hhigh) hlow]
  · intro hopen
    refine ⟨1, one_pos, fun span hlow hhigh => ?_⟩
    rw [le_antisymm hhigh hlow]
    have hlast := ticks_last (p := p) (b := wall + 1)
    rw [add_sub_cancel_right] at hlast
    exact hlast hopen

/-! ## Schedules without offsets -/

def BusinessHours.written (bh : BusinessHours) : IsoHours where
  timezone := bh.timezone
  schedule day := (bh.schedule day).map fun entry =>
    ⟨entry.isActive, ⟨entry.openTime, none⟩, ⟨entry.closeTime, none⟩⟩

theorem IsoTime.less_naive (a b : Time) :
    (⟨a, none⟩ : IsoTime).less ⟨b, none⟩ = .ok (decide (a < b)) := by
  have hiff : a.micros - b.micros < 0 ↔ a < b := sub_neg
  simp [less, apart, bind, Except.bind, pure, Except.pure, hiff]

section Entries

variable {bh : IsoHours} {day : ℤ} {entry : IsoDay}

theorem IsoHours.opening_of_less (hentry : bh.schedule day = some entry)
    (hactive : entry.isActive = true) (hless : entry.openTime.less entry.closeTime = .ok true) :
    bh.opening day = .ok (some ⟨entry.openTime, entry.closeTime, hless⟩) := by
  simp only [opening, hentry, hactive, if_true]
  split
  · rfl
  · rename_i hfalse
    cases hless.symm.trans hfalse
  · rename_i hraised
    cases hless.symm.trans hraised

theorem IsoHours.opening_of_not_less (hentry : bh.schedule day = some entry)
    (hless : entry.openTime.less entry.closeTime = .ok false) : bh.opening day = .ok none := by
  simp only [opening, hentry]
  split
  · split
    · rename_i htrue
      cases hless.symm.trans htrue
    · rfl
    · rename_i hraised
      cases hless.symm.trans hraised
  · rfl

end Entries

theorem BusinessHours.opening_written (bh : BusinessHours) (day : ℤ) :
    ∃ opening, bh.written.opening day = .ok opening ∧
      (opening.map fun opening => (opening.openTime.time, opening.closeTime.time)) =
        bh.days day := by
  cases hentry : bh.schedule day with
  | none =>
    refine ⟨none, ?_, ?_⟩
    · simp [IsoHours.opening, written, hentry]
    · simp [days, getDayConfig, hentry]
  | some entry =>
    have hwritten : bh.written.schedule day =
        some ⟨entry.isActive, ⟨entry.openTime, none⟩, ⟨entry.closeTime, none⟩⟩ := by
      simp [written, hentry]
    have hless := IsoTime.less_naive entry.openTime entry.closeTime
    cases hactive : entry.isActive with
    | false =>
      refine ⟨none, ?_, ?_⟩
      · simp [IsoHours.opening, hwritten, hactive]
      · simp [days, getDayConfig, hentry, hactive]
    | true =>
      by_cases hordered : entry.openTime < entry.closeTime
      · rw [decide_eq_true hordered] at hless
        refine ⟨_, IsoHours.opening_of_less hwritten hactive hless, ?_⟩
        simp [days, getDayConfig, hentry, hactive, hordered]
      · rw [decide_eq_false hordered] at hless
        refine ⟨none, IsoHours.opening_of_not_less hwritten hless, ?_⟩
        simp [days, getDayConfig, hentry, hactive, hordered]

section Agreement

variable {dt : Instant} {hours : Option IsoHours} {tenant : Tenant}

theorem accrues_of_no_settings (hsettings : tenant.settings = none) :
    Accrues dt hours tenant := by
  refine ⟨1, one_pos, fun span _ _ => ?_⟩
  simp [elapsedMinutes, resolveTenant, hsettings]

theorem accrues_of_no_config (hconfig : isoConfig hours tenant = .ok none) :
    Accrues dt hours tenant := by
  refine ⟨1, one_pos, fun span _ _ => ?_⟩
  unfold elapsedMinutes resolveTenant
  split
  · rw [add_sub_cancel_left]
  · rename_i resolved hresolved
    split at hresolved
    · rw [← Option.some.inj hresolved, hconfig]
      simp [bind, Except.bind, pure, Except.pure]
    · cases hresolved

theorem accrues_iff_open {offset : ℤ} (hconfig : isoConfig hours tenant = .ok (some config))
    (hfixed : config.tz = .fixed offset) (hsettings : tenant.settings.isSome) :
    Accrues dt hours tenant ↔ config.clock.Open (config.tz.wall dt) := by
  have helapsed : ∀ span, elapsedMinutes dt (dt + span) hours tenant =
      .ok (totalMinutes (ticks config.clock.Open (config.tz.wall dt)
        (config.tz.wall dt + span))) := by
    intro span
    have hend : config.tz.wall (dt + span) = config.tz.wall dt + span := by
      rw [hfixed]
      exact add_right_comm dt span offset
    rw [← hend]
    simp only [elapsedMinutes, resolveTenant, hsettings, if_true, hconfig, bind, Except.bind, pure,
      Except.pure]
    rw [countBusinessMinutes_eq]
    rfl
  rw [← short_span_counts_iff (p := config.clock.Open)]
  unfold Accrues
  simp only [helapsed, Except.ok.injEq, totalMinutes_inj]

/-- `is_within_business_hours` under a configuration. -/
theorem isWithinBusinessHours_of_config (hconfig : isoConfig hours tenant = .ok (some config)) :
    isWithinBusinessHours dt hours tenant =
      match config.openingAt (config.tz.wall dt) with
      | none => .ok false
      | some opening => opening.contains ⟨timeOfDay (config.tz.wall dt), none⟩ := by
  rw [isWithinBusinessHours, hconfig]
  rfl

def Opening.InSeconds (opening : Opening) (now : Time) : Prop :=
  (opening.openTime.time.minuteStart ≤ now.micros ∧ now.micros < opening.openTime.time.micros ∧
      now.micros < opening.closeTime.time.minuteStart) ∨
    (opening.openTime.time.micros ≤ now.micros ∧
      opening.closeTime.time.minuteStart ≤ now.micros ∧
      now.micros < opening.closeTime.time.micros)

/--
Where the two functions can agree: all times comparable; on a business day, times without an
offset and not within their seconds; and, for a tenant without a settings row, business hours.
-/
def Comparable (dt : Instant) (hours : Option IsoHours) (tenant : Tenant) : Prop :=
  match isoConfig hours tenant with
  | .error _ => False
  | .ok none => True
  | .ok (some config) =>
    let wall := config.tz.wall dt
    match config.openingAt wall with
    | none => tenant.settings.isSome
    | some opening =>
      opening.openTime.utcoffset = none ∧
        if tenant.settings.isSome then ¬ opening.InSeconds (timeOfDay wall)
        else opening.openTime.time.micros ≤ (timeOfDay wall).micros ∧
          (timeOfDay wall).micros < opening.closeTime.time.micros

theorem Opening.not_inSeconds_iff {now : Time} :
    ¬ opening.InSeconds now ↔
      ((opening.openTime.time.micros ≤ now.micros ∧
          now.micros < opening.closeTime.time.micros) ↔
        (opening.openTime.time.minuteStart ≤ now.micros ∧
          now.micros < opening.closeTime.time.minuteStart)) := by
  have hopen := opening.openTime.time.minuteStart_le_micros
  have hclose := opening.closeTime.time.minuteStart_le_micros
  unfold InSeconds
  omega

/--
`is_within_business_hours` answers, and says that business time accrues where it does, if and only
if the two can be compared at the instant.
-/
theorem isWithinBusinessHours_iff_accrues (dt : Instant) (hours : Option IsoHours)
    (tenant : Tenant)
    (hfixed : ∀ config, isoConfig hours tenant = .ok (some config) →
      ∃ offset, config.tz = .fixed offset) :
    (∃ within, isWithinBusinessHours dt hours tenant = .ok within ∧
        (within = true ↔ Accrues dt hours tenant)) ↔
      Comparable dt hours tenant := by
  unfold Comparable
  cases hconfig : isoConfig hours tenant with
  | error raised => simp [isWithinBusinessHours, hconfig, bind, Except.bind]
  | ok found =>
    cases found with
    | none =>
      have haccrues : Accrues dt hours tenant := accrues_of_no_config hconfig
      simp [isWithinBusinessHours, hconfig, haccrues, bind, Except.bind, pure, Except.pure]
    | some config =>
      obtain ⟨offset, htz⟩ := hfixed config hconfig
      rw [isWithinBusinessHours_of_config hconfig]
      dsimp only
      have hopen := config.clock_open_iff (config.tz.wall dt)
      cases hsettings : tenant.settings with
      | none =>
        -- all time accrues, so the reading has to be within
        have haccrues : Accrues dt hours tenant := accrues_of_no_settings hsettings
        cases hday : config.openingAt (config.tz.wall dt) with
        | none => simp [haccrues]
        | some opening =>
          by_cases hnaive : opening.openTime.utcoffset = none
          · simp [Opening.contains_of_naive hnaive, hnaive, haccrues]
          · simp [Opening.contains_of_aware hnaive, hnaive]
      | some settings =>
        have haccrues : Accrues dt hours tenant ↔ config.clock.Open (config.tz.wall dt) :=
          accrues_iff_open hconfig htz (by rw [hsettings]; rfl)
        cases hday : config.openingAt (config.tz.wall dt) with
        | none => simp [haccrues, hopen, hday]
        | some opening =>
          by_cases hnaive : opening.openTime.utcoffset = none
          · simp [Opening.contains_of_naive hnaive, hnaive, haccrues, hopen, hday,
              Opening.not_inSeconds_iff]
          · simp [Opening.contains_of_aware hnaive, hnaive]

end Agreement

/-! ## Half a minute -/

/-- Open on every day from half past nine and thirty seconds till five. -/
def halfPast : IsoHours where
  timezone := "UTC"
  schedule _ := some ⟨true, ⟨.dial 9 30 30, none⟩, ⟨.dial 17 0 0, none⟩⟩

def officeSettings : TenantSettings where
  timezone := "UTC"
  businessHoursStart := .dial 9 0 0
  businessHoursEnd := .dial 17 0 0
  businessDays := [0, 1, 2, 3, 4]

def office : Tenant where
  settings := some officeSettings
  businessHours := none
  publicHolidays := []
  zones _ := some .utc

def officeOpening : Opening := settingsOpening officeSettings (by decide)

def officeConfig : IsoConfig where
  tz := .utc
  days day := if day ∈ officeSettings.businessDays then some officeOpening else none
  holidayDates := []

theorem isoConfig_office : isoConfig none office = .ok (some officeConfig) := by
  have hordered : officeSettings.businessHoursStart < officeSettings.businessHoursEnd := by decide
  have hdays : officeSettings.businessDays ≠ [] := List.cons_ne_nil _ _
  simp only [isoConfig, office, if_neg hdays, dif_pos hordered]
  rfl

theorem office_fixed (hours : Option IsoHours) (config : IsoConfig)
    (hconfig : isoConfig hours office = .ok (some config)) :
    ∃ offset, config.tz = .fixed offset := by
  obtain ⟨name, hname⟩ := isoConfig_tz hconfig
  exact ⟨0, hname⟩

/-- Ten on a Monday morning, by the settings alone. -/
theorem isWithinBusinessHours_iff_accrues_monday :
    ∃ within, isWithinBusinessHours 381600000000 none office = .ok within ∧
      (within = true ↔ Accrues 381600000000 none office) := by
  apply (isWithinBusinessHours_iff_accrues 381600000000 none office (office_fixed none)).mpr
  have hday : officeConfig.openingAt (officeConfig.tz.wall 381600000000) = some officeOpening := rfl
  simp only [Comparable, isoConfig_office, hday]
  refine ⟨rfl, ?_⟩
  rw [if_pos (show office.settings.isSome = true from rfl), Opening.not_inSeconds_iff]
  decide +kernel

/-- Ten seconds past the half hour, time accrues while business hours are not on. -/
theorem not_isWithinBusinessHours_iff_accrues :
    ¬ ∀ (dt : Instant) (hours : Option IsoHours) (tenant : Tenant),
      (∀ config, isoConfig hours tenant = .ok (some config) →
        ∃ offset, config.tz = .fixed offset) →
      ∃ within, isWithinBusinessHours dt hours tenant = .ok within ∧
        (within = true ↔ Accrues dt hours tenant) := by
  intro hall
  obtain ⟨within, hwithin, hiff⟩ :=
    hall 34210000000 (some halfPast) office (office_fixed (some halfPast))
  have hclosed : isWithinBusinessHours 34210000000 (some halfPast) office = .ok false := by
    decide +kernel
  rw [Except.ok.inj (hwithin.symm.trans hclosed)] at hiff
  have hconfig : ∃ config, isoConfig (some halfPast) office = .ok (some config) ∧
      config.tz = .fixed 0 ∧ config.clock.Open (config.tz.wall 34210000000) :=
    ⟨_, rfl, rfl, by decide +kernel⟩
  obtain ⟨config, hsome, htz, hopen⟩ := hconfig
  exact Bool.false_ne_true (hiff.mpr ((accrues_iff_open hsome htz rfl).mpr hopen))

end Kanzan.Sla

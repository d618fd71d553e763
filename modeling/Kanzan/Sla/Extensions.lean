import Kanzan.Sla.Walks

/-!
# Deadlines that are extended

How far an addition of business minutes moves an instant, in a zone whose clock may be put forward
and back.  The minutes need not be whole microseconds; bounds that are whole minutes are kept.
-/

namespace Kanzan.Sla

open Support BusinessConfig

/-! ## Bounds in whole minutes -/

variable {startUtc : Instant} {tenant : Tenant} {least : ℕ} {micros : ℤ}

theorem nonpos_of_le_half (h : totalMinutes micros ≤ totalMinutes 1 / 2) : micros ≤ 0 := by
  by_contra hpos
  have hone : totalMinutes 1 ≤ totalMinutes micros := totalMinutes_le.mpr (by omega)
  have hunit : totalMinutes 0 < totalMinutes 1 := totalMinutes_lt.mpr one_pos
  rw [totalMinutes_zero] at hunit
  linarith

theorem between_of_nearest {low high : ℤ} {minutes : Minutes}
    (hnearest : |totalMinutes micros - minutes| ≤ totalMinutes 1 / 2)
    (hlow : totalMinutes low ≤ minutes) (hhigh : minutes ≤ totalMinutes high) :
    low ≤ micros ∧ micros ≤ high := by
  obtain ⟨hbelow, habove⟩ := abs_le.mp hnearest
  have hfirst : totalMinutes (low - micros) ≤ totalMinutes 1 / 2 := by
    rw [totalMinutes_sub]
    linarith
  have hlast : totalMinutes (micros - high) ≤ totalMinutes 1 / 2 := by
    rw [totalMinutes_sub]
    linarith
  exact ⟨sub_nonpos.mp (nonpos_of_le_half hfirst), sub_nonpos.mp (nonpos_of_le_half hlast)⟩

/-! ## Where an addition stops -/

section Stops

variable {config : BusinessConfig} {start : LocalTime} {minutes : Minutes} {stop : LocalTime}

/--
The local reading at which some minutes have been open, to the nearest microsecond: it ends open
time, unless less than half a microsecond is left for the opening that follows.
-/
structure Landing (config : BusinessConfig) (start : LocalTime) (minutes : Minutes)
    (stop : LocalTime) : Prop where
  first : stop.fold = false
  forward : start.wall ≤ stop.wall
  nearest : |totalMinutes (ticks config.Open start.wall stop.wall) - minutes| ≤ totalMinutes 1 / 2
  edge : config.Open (stop.wall - 1) ∨
    config.Open stop.wall ∧ totalMinutes (ticks config.Open start.wall stop.wall) < minutes

theorem Landing.prepend {used : ℤ}
    (landing : Landing config (nextBusinessDayStart config start) (minutes - totalMinutes used) stop)
    (hused : ticks config.Open start.wall (nextMidnight start.wall) = used) :
    Landing config start minutes stop := by
  obtain ⟨hle, hticks⟩ := nextBusinessDayStart_ticks config start le_rfl
  have hsum : totalMinutes (ticks config.Open start.wall stop.wall) = totalMinutes used +
      totalMinutes (ticks config.Open (nextBusinessDayStart config start).wall stop.wall) := by
    rw [ticks_add hle landing.forward, hticks, hused, totalMinutes_add]
  refine ⟨landing.first, hle.trans landing.forward, ?_, ?_⟩
  · have hnearest := landing.nearest
    rw [hsum]
    convert hnearest using 2
    ring
  · rcases landing.edge with hends | ⟨hopens, hless⟩
    · exact .inl hends
    · refine .inr ⟨hopens, ?_⟩
      rw [hsum]
      linarith

theorem Landing.today {opening closing : ℤ} (ahead : DayAhead config start.wall opening closing)
    (hpos : 0 < minutes) (hfits : minutes ≤ totalMinutes (closing - opening)) :
    Landing config start minutes ⟨opening + timedeltaMinutes minutes, false⟩ := by
  have hforward := ahead.forward
  have hnonneg := timedeltaMinutes_nonneg hpos.le
  have hreach := timedeltaMinutes_le hfits
  have hticks : ticks config.Open start.wall (opening + timedeltaMinutes minutes) =
      timedeltaMinutes minutes := by
    rw [ahead.counts _ (by omega), add_sub_cancel_left, max_eq_right hnonneg]
  refine ⟨rfl, ?_, ?_, ?_⟩
  · dsimp only
    omega
  · dsimp only
    rw [hticks]
    exact abs_timedeltaMinutes_sub_le minutes
  · dsimp only
    rcases hnonneg.eq_or_lt with hzero | hsome
    · refine .inr ⟨?_, ?_⟩
      · rw [← hzero, add_zero]
        exact ahead.opens le_rfl ahead.wide
      · rwa [hticks, ← hzero, totalMinutes_zero]
    · exact .inl (ahead.opens (by omega) (by omega))

theorem addLoop_landing (fuel : ℕ) (hpos : 0 < minutes)
    (hdone : (addLoop config fuel start minutes).2 = 0) :
    Landing config start minutes (addLoop config fuel start minutes).1 := by
  induction fuel generalizing start minutes with
  | zero => exact absurd hdone hpos.ne'
  | succ fuel ih =>
    rcases addLoop_succ config fuel start hpos with
      ⟨used, hused, hless, hnext⟩ | ⟨opening, closing, ahead, hfits, htoday⟩
    · rw [hnext] at hdone ⊢
      exact (ih (sub_pos.mpr hless) hdone).prepend hused
    · rw [htoday]
      exact .today ahead hpos hfits

/-- An addition lands, or stops at the last business day that the limit allows for. -/
def StopsAt (config : BusinessConfig) (start : LocalTime) (minutes : Minutes) (stop : LocalTime) :
    Prop :=
  Landing config start minutes stop ∨
    stop = lastBusinessDay config start ∧
      totalMinutes (ticks config.Open start.wall stop.wall) < minutes

theorem StopsAt.forward (stops : StopsAt config start minutes stop) : start.wall ≤ stop.wall := by
  rcases stops with landing | ⟨hlast, -⟩
  · exact landing.forward
  · rw [hlast]
    exact le_iterate_nextBusinessDayStart config addLoopLimit start

theorem addBusinessMinutesLocal_stopsAt (config : BusinessConfig) (startUtc : Instant)
    (hpos : 0 < minutes) :
    StopsAt config (config.tz.fromUtc startUtc) minutes
      (addBusinessMinutesLocal startUtc minutes config).1 := by
  have spent := addLoop_spent config addLoopLimit (config.tz.fromUtc startUtc) hpos.le
  rcases spent.nonneg.eq_or_lt with hdone | hleft
  · exact .inl (addLoop_landing addLoopLimit hpos hdone.symm)
  · obtain ⟨hlast, hexact⟩ := spent.gaveUp hleft
    refine .inr ⟨hlast, ?_⟩
    rw [addBusinessMinutesLocal]
    linarith

theorem StopsAt.between {low high : ℤ} (stops : StopsAt config start minutes stop)
    (hlow : totalMinutes low ≤ minutes) (hhigh : minutes ≤ totalMinutes high)
    (hreach : low ≤ ticks config.Open start.wall (lastBusinessDay config start).wall) :
    low ≤ ticks config.Open start.wall stop.wall ∧
      ticks config.Open start.wall stop.wall ≤ high := by
  rcases stops with landing | ⟨hlast, hless⟩
  · exact between_of_nearest landing.nearest hlow hhigh
  · rw [← hlast] at hreach
    exact ⟨hreach, (totalMinutes_lt.mp (hless.trans_le hhigh)).le⟩

end Stops

/-! ## Back to an instant -/

/--
The instant to which a reading is converted comes no earlier than the start, and no business time
lies between the reading and what the clock shows then.
-/
structure Shown (config : BusinessConfig) (startUtc : Instant) (stop : LocalTime) : Prop where
  later : startUtc ≤ config.tz.toUtc stop
  ahead : ticks config.Open stop.wall (config.tz.wall (config.tz.toUtc stop)) = 0
  behind : ticks config.Open (config.tz.wall (config.tz.toUtc stop)) stop.wall = 0

theorem Shown.count {config : BusinessConfig} {stop : LocalTime}
    (shown : Shown config startUtc stop) (hforward : config.tz.wall startUtc ≤ stop.wall) :
    countBusinessMinutes startUtc (config.tz.toUtc stop) config =
      totalMinutes (ticks config.Open (config.tz.wall startUtc) stop.wall) := by
  rw [countBusinessMinutes_eq]
  congr 1
  rcases le_total stop.wall (config.tz.wall (config.tz.toUtc stop)) with hlater | hearlier
  · rw [ticks_add hforward hlater, shown.ahead, add_zero]
  · rcases le_total (config.tz.wall startUtc) (config.tz.wall (config.tz.toUtc stop)) with
      hafter | hbefore
    · rw [ticks_add hafter hearlier, shown.behind, add_zero]
    · have hnone := shown.behind
      have hnonneg := ticks_nonneg (p := config.Open) (a := config.tz.wall startUtc)
        (b := stop.wall)
      have hrest := ticks_nonneg (p := config.Open)
        (a := config.tz.wall (config.tz.toUtc stop)) (b := config.tz.wall startUtc)
      rw [ticks_add hbefore hforward] at hnone
      rw [ticks_of_le hbefore]
      omega

/--
Some minutes can be added to an instant: the least that is granted is open before the limit, and
the local reading at which they have run out is one that the clock shows.
-/
structure Extendable (config : BusinessConfig) (startUtc : Instant) (least : ℕ)
    (minutes : Minutes) : Prop where
  reach : least * minuteMicros ≤ ticks config.Open (config.tz.wall startUtc)
    (lastBusinessDay config (config.tz.fromUtc startUtc)).wall
  shown : ∀ stop, StopsAt config (config.tz.fromUtc startUtc) minutes stop →
    Shown config startUtc stop

def CanExtend (tenant : Tenant) (startUtc : Instant) (least : ℕ) (minutes : Minutes) : Prop :=
  ∀ config, getBusinessConfig tenant = some config → Extendable config startUtc least minutes

/-- The business time from one instant to another, which around the clock is all time. -/
def businessMinutes (tenant : Tenant) (startUtc endUtc : Instant) : Minutes :=
  match getBusinessConfig tenant with
  | none => totalMinutes (endUtc - startUtc)
  | some config => countBusinessMinutes startUtc endUtc config

/-- An instant moves later by the minutes that are added to it, within their whole bounds. -/
theorem addBusinessMinutes_extends {most : ℕ} {minutes : Minutes} (hleast : least ≤ minutes)
    (hmost : minutes ≤ most) (hpos : 0 < least) (can : CanExtend tenant startUtc least minutes) :
    startUtc ≤ addBusinessMinutes startUtc minutes tenant ∧
      least ≤ businessMinutes tenant startUtc (addBusinessMinutes startUtc minutes tenant) ∧
      businessMinutes tenant startUtc (addBusinessMinutes startUtc minutes tenant) ≤ most := by
  have hminutes : 0 < minutes := (Nat.cast_pos.mpr hpos).trans_le hleast
  rw [natCast_eq_totalMinutes] at hleast hmost
  rw [natCast_eq_totalMinutes, natCast_eq_totalMinutes, businessMinutes, addBusinessMinutes]
  cases hconfig : getBusinessConfig tenant with
  | none =>
    dsimp only
    rw [add_sub_cancel_left, totalMinutes_le, totalMinutes_le]
    have hnonneg := timedeltaMinutes_nonneg hminutes.le
    exact ⟨by linarith, between_of_nearest (abs_timedeltaMinutes_sub_le minutes) hleast hmost⟩
  | some config =>
    have extendable := can config hconfig
    have stops := addBusinessMinutesLocal_stopsAt config startUtc hminutes
    have shown := extendable.shown _ stops
    dsimp only
    rw [addBusinessMinutesIn, shown.count stops.forward, totalMinutes_le, totalMinutes_le]
    exact ⟨shown.later, stops.between hleast hmost extendable.reach⟩

/-- The reading at which an addition stops denotes an instant no earlier than the start. -/
def Forward (tenant : Tenant) (startUtc : Instant) (minutes : Minutes) : Prop :=
  ∀ config, getBusinessConfig tenant = some config →
    ∀ stop, StopsAt config (config.tz.fromUtc startUtc) minutes stop →
      startUtc ≤ config.tz.toUtc stop

theorem le_addBusinessMinutes {minutes : Minutes} (hnonneg : 0 ≤ minutes)
    (forward : Forward tenant startUtc minutes) :
    startUtc ≤ addBusinessMinutes startUtc minutes tenant := by
  rw [addBusinessMinutes]
  cases hconfig : getBusinessConfig tenant with
  | none => exact le_add_of_nonneg_right (timedeltaMinutes_nonneg hnonneg)
  | some config =>
    rcases hnonneg.eq_or_lt with hzero | hpos
    · rw [← hzero]
      exact (config.tz.toUtc_fromUtc startUtc).ge
    · exact forward config hconfig _ (addBusinessMinutesLocal_stopsAt config startUtc hpos)

theorem CanExtend.forward {minutes : Minutes} (can : CanExtend tenant startUtc least minutes) :
    Forward tenant startUtc minutes :=
  fun config hconfig stop stops => ((can config hconfig).shown stop stops).later

theorem extendable_fixed {config : BusinessConfig} {offset : ℤ} (hfixed : config.tz = .fixed offset)
    {minutes : Minutes} (hreach : least * minuteMicros ≤ ticks config.Open (config.tz.wall startUtc)
      (lastBusinessDay config (config.tz.fromUtc startUtc)).wall) :
    Extendable config startUtc least minutes := by
  refine ⟨hreach, fun stop stops => ?_⟩
  have hforward := stops.forward
  have hwall : config.tz.wall (config.tz.toUtc stop) = stop.wall := by
    rw [hfixed]
    exact sub_add_cancel stop.wall offset
  refine ⟨?_, ?_, ?_⟩
  · rw [hfixed] at hforward ⊢
    exact le_sub_iff_add_le.mpr hforward
  · rw [hwall, ticks_self]
  · rw [hwall, ticks_self]

end Kanzan.Sla

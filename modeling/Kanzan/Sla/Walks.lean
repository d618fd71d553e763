import Kanzan.Sla.Deadline
import Kanzan.Sla.Measure

/-!
# Walks that end

How far the walk to a deadline gets before its safety limit, for any exact number of minutes; only
the last addition rounds them to microseconds.
-/

namespace Kanzan.Sla

open Support BusinessConfig

/-! ## Rounding -/

theorem abs_roundHalfEven_sub_le (x : ℚ) : |(roundHalfEven x : ℚ) - x| ≤ 1 / 2 := by
  have hlow := Int.floor_le x
  have hhigh := Int.lt_floor_add_one x
  unfold roundHalfEven
  dsimp only
  rw [abs_le]
  split
  · constructor <;> linarith
  · split
    · push_cast
      constructor <;> linarith
    · split
      · constructor <;> linarith
      · push_cast
        constructor <;> linarith

theorem roundHalfEven_le {x : ℚ} {n : ℤ} (h : x ≤ n) : roundHalfEven x ≤ n := by
  have hfloor : ⌊x⌋ ≤ n := by
    have hcast := (Int.floor_le x).trans h
    exact_mod_cast hcast
  unfold roundHalfEven
  dsimp only
  rcases hfloor.lt_or_eq with hlt | heq
  · split
    · exact hfloor
    · split
      · exact hlt
      · split
        · exact hfloor
        · exact hlt
  · have hexact : x - ⌊x⌋ < 1 / 2 := by
      rw [heq]
      linarith
    rw [if_pos hexact]
    exact hfloor

theorem roundHalfEven_nonneg {x : ℚ} (h : 0 ≤ x) : 0 ≤ roundHalfEven x := by
  have hfloor : 0 ≤ ⌊x⌋ := Int.floor_nonneg.mpr h
  unfold roundHalfEven
  dsimp only
  split
  · exact hfloor
  · split
    · omega
    · split <;> omega

section Rounding

variable {minutes : Minutes} {micros : ℤ}

theorem minutes_eq (minutes : Minutes) : minutes = minutes * minuteMicros / minuteMicros :=
  (mul_div_cancel_right₀ _ minuteMicros_pos.ne').symm

theorem abs_timedeltaMinutes_sub_le (minutes : Minutes) :
    |totalMinutes (timedeltaMinutes minutes) - minutes| ≤ totalMinutes 1 / 2 := by
  have hround := abs_roundHalfEven_sub_le (minutes * minuteMicros)
  have hsplit : totalMinutes (timedeltaMinutes minutes) - minutes =
      (roundHalfEven (minutes * minuteMicros) - minutes * minuteMicros) / minuteMicros := by
    rw [sub_div, ← minutes_eq]
    rfl
  rw [hsplit, abs_div, abs_of_pos minuteMicros_pos, totalMinutes, Int.cast_one, div_right_comm]
  exact div_le_div_of_nonneg_right hround minuteMicros_pos.le

theorem timedeltaMinutes_le (h : minutes ≤ totalMinutes micros) :
    timedeltaMinutes minutes ≤ micros :=
  roundHalfEven_le ((le_div_iff₀ minuteMicros_pos).mp h)

theorem timedeltaMinutes_nonneg (h : 0 ≤ minutes) : 0 ≤ timedeltaMinutes minutes :=
  roundHalfEven_nonneg (mul_nonneg h minuteMicros_pos.le)

theorem eq_of_abs_totalMinutes_sub_le {a b : ℤ}
    (h : |totalMinutes a - totalMinutes b| ≤ totalMinutes 1 / 2) : a = b := by
  rw [← totalMinutes_sub, abs_le, totalMinutes, totalMinutes, Int.cast_one, div_right_comm,
    ← neg_div, div_le_div_iff_of_pos_right minuteMicros_pos,
    div_le_div_iff_of_pos_right minuteMicros_pos] at h
  obtain ⟨hlow, hhigh⟩ := h
  have hbelow : a - b < 1 := by
    have hcast : ((a - b : ℤ) : ℚ) < 1 := by linarith
    exact_mod_cast hcast
  have habove : -1 < a - b := by
    have hcast : (-1 : ℚ) < ((a - b : ℤ) : ℚ) := by linarith
    exact_mod_cast hcast
  omega

end Rounding

/-! ## Any exact number of minutes -/

/-- What the deadline loop has done when it stops with some minutes left. -/
structure Spent (config : BusinessConfig) (fuel : ℕ) (start : LocalTime) (minutes : Minutes)
    (stop : LocalTime × Minutes) : Prop where
  nonneg : 0 ≤ stop.2
  forward : start.wall ≤ stop.1.wall
  accounted : |totalMinutes (ticks config.Open start.wall stop.1.wall) + stop.2 - minutes| ≤
    totalMinutes 1 / 2
  gaveUp : 0 < stop.2 → stop.1 = (nextBusinessDayStart config)^[fuel] start ∧
    totalMinutes (ticks config.Open start.wall stop.1.wall) + stop.2 = minutes

section Spending

variable {config : BusinessConfig} {fuel : ℕ} {start : LocalTime} {minutes : Minutes}
  {stop : LocalTime × Minutes}

theorem Spent.refl (h : 0 ≤ minutes) (hfuel : 0 < minutes → fuel = 0) :
    Spent config fuel start minutes (start, minutes) := by
  have hsame : totalMinutes (ticks config.Open start.wall start.wall) + minutes = minutes := by
    rw [ticks_self, totalMinutes_zero, zero_add]
  refine ⟨h, le_rfl, ?_, fun hpos => ⟨?_, hsame⟩⟩
  · rw [hsame, sub_self, abs_zero]
    exact div_nonneg (totalMinutes_nonneg.mpr (by decide)) (by decide)
  · rw [hfuel hpos]
    rfl

theorem Spent.prepend {used : ℤ}
    (spent : Spent config fuel (nextBusinessDayStart config start) (minutes - totalMinutes used) stop)
    (hused : ticks config.Open start.wall (nextMidnight start.wall) = used) :
    Spent config (fuel + 1) start minutes stop := by
  obtain ⟨hle, hticks⟩ := nextBusinessDayStart_ticks config start le_rfl
  have hsum : totalMinutes (ticks config.Open start.wall stop.1.wall) = totalMinutes used +
      totalMinutes (ticks config.Open (nextBusinessDayStart config start).wall stop.1.wall) := by
    rw [ticks_add hle spent.forward, hticks, hused, totalMinutes_add]
  refine ⟨spent.nonneg, hle.trans spent.forward, ?_, fun hpos => ?_⟩
  · have haccounted := spent.accounted
    rw [hsum]
    convert haccounted using 2
    ring
  · obtain ⟨hreached, hexact⟩ := spent.gaveUp hpos
    refine ⟨hreached, ?_⟩
    rw [hsum, add_assoc, hexact]
    ring

theorem Spent.today {opening closing : ℤ} (ahead : DayAhead config start.wall opening closing)
    (hpos : 0 < minutes) (hfits : minutes ≤ totalMinutes (closing - opening)) :
    Spent config fuel start minutes (⟨opening + timedeltaMinutes minutes, false⟩, 0) := by
  have hforward := ahead.forward
  have hnonneg := timedeltaMinutes_nonneg hpos.le
  have hreach := timedeltaMinutes_le hfits
  have hticks : ticks config.Open start.wall (opening + timedeltaMinutes minutes) =
      timedeltaMinutes minutes := by
    rw [ahead.counts _ (by omega), add_sub_cancel_left, max_eq_right hnonneg]
  refine ⟨le_rfl, ?_, ?_, fun hleft => absurd hleft (lt_irrefl 0)⟩
  · dsimp only
    omega
  · dsimp only
    rw [hticks, add_zero]
    exact abs_timedeltaMinutes_sub_le minutes

theorem addLoop_spent (config : BusinessConfig) (fuel : ℕ) (start : LocalTime) {minutes : Minutes}
    (hminutes : 0 ≤ minutes) :
    Spent config fuel start minutes (addLoop config fuel start minutes) := by
  induction fuel generalizing start minutes with
  | zero => exact .refl hminutes fun _ => rfl
  | succ fuel ih =>
    rcases hminutes.eq_or_lt with rfl | hpos
    · rw [addLoop_done]
      exact .refl le_rfl fun hpos => absurd hpos (lt_irrefl 0)
    rcases addLoop_succ config fuel start hpos with
      ⟨used, hused, hless, hnext⟩ | ⟨opening, closing, ahead, hfits, htoday⟩
    · rw [hnext]
      exact Spent.prepend (ih _ (sub_nonneg.mpr hless.le)) hused
    · rw [htoday]
      exact .today ahead hpos hfits

end Spending

/-! ## Far enough -/

def BusinessConfig.IsBusinessDate (config : BusinessConfig) (day : ℤ) : Prop :=
  day ∉ config.holidayDates ∧ (config.days ((day + 3) % 7)).isSome = true

/-- All windows have some width, and no 365 dates in a row are without business. -/
structure BusinessConfig.Workable (config : BusinessConfig) (width : ℤ) : Prop where
  pos : 0 < width
  windows : ∀ day times, config.days day = some times →
    width ≤ times.2.minuteStart - times.1.minuteStart
  dates : ∀ day, ∃ later < 365, config.IsBusinessDate (day + (later : ℕ))

def AtOpening (config : BusinessConfig) (wall : ℤ) : Prop :=
  date wall ∉ config.holidayDates ∧
    ∃ times, config.days (weekday wall) = some times ∧ replaceTime wall times.1 = wall

section Enough

variable {config : BusinessConfig} {width : ℤ}

theorem nextBusinessDayLoop_opens (fuel : ℕ) (midnight : ℤ)
    (hmidnight : date midnight * dayMicros = midnight)
    (hdates : ∃ later < fuel, config.IsBusinessDate (date midnight + (later : ℕ))) :
    AtOpening config (nextBusinessDayLoop config fuel midnight) := by
  induction fuel generalizing midnight with
  | zero =>
    obtain ⟨later, hlater, -⟩ := hdates
    exact absurd hlater (Nat.not_lt_zero later)
  | succ fuel ih =>
    have hnext := nextMidnight_of_midnight hmidnight
    have hskip : ¬ config.IsBusinessDate (date midnight) →
        AtOpening config (nextBusinessDayLoop config fuel (midnight + dayMicros)) := by
      intro hclosed
      rw [← hnext]
      refine ih (nextMidnight midnight) (date_mul_nextMidnight midnight) ?_
      obtain ⟨later, hlater, hbusiness⟩ := hdates
      cases later with
      | zero =>
        rw [Nat.cast_zero, add_zero] at hbusiness
        exact absurd hbusiness hclosed
      | succ later =>
        refine ⟨later, Nat.lt_of_succ_lt_succ hlater, ?_⟩
        rw [date_nextMidnight, add_assoc, add_comm 1, ← Nat.cast_succ]
        exact hbusiness
    rw [nextBusinessDayLoop]
    split
    · rename_i hholiday
      cases hdays : config.days (weekday midnight) with
      | none =>
        refine hskip fun hbusiness => ?_
        have hsome := hbusiness.2
        rw [← weekday, hdays] at hsome
        cases hsome
      | some times =>
        have hlow := date_mul_le_replaceTime midnight times.1
        rw [hmidnight] at hlow
        have hsame := date_eq_of_between hlow (replaceTime_lt_nextMidnight midnight times.1)
        refine ⟨hsame ▸ hholiday, times, ?_, replaceTime_congr hsame times.1⟩
        rw [weekday, hsame]
        exact hdays
    · rename_i hholiday
      exact hskip fun hbusiness => hholiday hbusiness.1

theorem BusinessConfig.Workable.opens (workable : config.Workable width) (current : LocalTime) :
    AtOpening config (nextBusinessDayStart config current).wall :=
  nextBusinessDayLoop_opens 365 _ (date_mul_nextMidnight current.wall) (workable.dates _)

theorem BusinessConfig.Workable.le_ticks (workable : config.Workable width) {wall : ℤ}
    (opening : AtOpening config wall) :
    width ≤ ticks config.Open wall (nextMidnight wall) := by
  obtain ⟨hholiday, times, hdays, hopen⟩ := opening
  have hwidth := workable.windows _ times hdays
  have hclose := replaceTime_lt_nextMidnight wall times.2
  have hspan : replaceTime wall times.2 - wall =
      times.2.minuteStart - times.1.minuteStart := by
    unfold replaceTime at hopen ⊢
    omega
  rw [ticks_day _ le_rfl, dayWindow_of_weekday hholiday, hdays]
  dsimp only [Option.map_some]
  rw [hopen, max_self, min_eq_right hclose.le, hspan]
  exact hwidth.trans (le_max_right _ _)

theorem BusinessConfig.Workable.le_ticks_iterate (workable : config.Workable width) (hops : ℕ)
    (current : LocalTime) (opening : AtOpening config current.wall) :
    hops * width ≤ ticks config.Open current.wall
      ((nextBusinessDayStart config)^[hops] current).wall := by
  induction hops generalizing current with
  | zero =>
    rw [Nat.cast_zero, zero_mul]
    exact ticks_nonneg
  | succ hops ih =>
    obtain ⟨hle, hticks⟩ := nextBusinessDayStart_ticks config current le_rfl
    have hrest := ih (nextBusinessDayStart config current) (workable.opens current)
    have hfirst := workable.le_ticks opening
    have hforward := le_iterate_nextBusinessDayStart config hops
      (nextBusinessDayStart config current)
    rw [Function.iterate_succ_apply, ticks_add hle hforward, hticks, Nat.cast_succ, add_mul,
      one_mul]
    omega

theorem BusinessConfig.Workable.le_ticks_last (workable : config.Workable width) (start : LocalTime) :
    8758 * width ≤ ticks config.Open start.wall (lastBusinessDay config start).wall := by
  obtain ⟨hle, -⟩ := nextBusinessDayStart_ticks config start le_rfl
  have hhops := workable.le_ticks_iterate 8759 (nextBusinessDayStart config start)
    (workable.opens start)
  have hforward := le_iterate_nextBusinessDayStart config 8759 (nextBusinessDayStart config start)
  have hcut := ticks_add (p := config.Open) hle hforward
  have hnonneg := ticks_nonneg (p := config.Open) (a := start.wall)
    (b := (nextBusinessDayStart config start).wall)
  have hpos := workable.pos
  have hlast : lastBusinessDay config start =
      (nextBusinessDayStart config)^[8759] (nextBusinessDayStart config start) :=
    Function.iterate_succ_apply (nextBusinessDayStart config) 8759 start
  rw [hlast]
  push_cast at hhops
  omega

end Enough

end Kanzan.Sla

import Kanzan.Sla.BusinessHours
import Kanzan.Support.Ticks

/-!
# What the measuring loop computes

`Open` is the set of wall-clock readings inside business hours.  The measuring
loop counts exactly the open ticks between two readings, and nothing later unfolds it.
-/

namespace Kanzan.Sla

open Support

variable {current endLocal : ℤ}

namespace BusinessConfig

def dayWindow (config : BusinessConfig) (wall : ℤ) : Option (ℤ × ℤ) :=
  if date wall ∈ config.holidayDates then none
  else (config.days (weekday wall)).map fun times =>
    (replaceTime wall times.1, replaceTime wall times.2)

def Open (config : BusinessConfig) (wall : ℤ) : Prop :=
  match config.dayWindow wall with
  | none => False
  | some window => window.1 ≤ wall ∧ wall < window.2

instance (config : BusinessConfig) : DecidablePred config.Open := fun wall =>
  match hwindow : config.dayWindow wall with
  | none => isFalse (by simp [Open, hwindow])
  | some window =>
    decidable_of_iff (window.1 ≤ wall ∧ wall < window.2) (by simp [Open, hwindow])

variable {config : BusinessConfig}

theorem dayWindow_congr {a b : ℤ} (h : date a = date b) :
    config.dayWindow a = config.dayWindow b := by
  have hweekday : weekday a = weekday b := by rw [weekday, weekday, h]
  unfold dayWindow
  rw [h, hweekday]
  simp only [replaceTime_congr h]

variable (config) in
/-- The open ticks left in the current day, up to a stop within it. -/
theorem ticks_day {stop : ℤ} (hstop : stop ≤ nextMidnight current) :
    ticks config.Open current stop =
      match config.dayWindow current with
      | none => 0
      | some window => max 0 (min stop window.2 - max current window.1) := by
  have hsame : ∀ x, current ≤ x → x < stop → config.dayWindow x = config.dayWindow current :=
    fun x hlow hhigh => dayWindow_congr (date_eq_of_between hlow (by omega))
  cases hwindow : config.dayWindow current with
  | none =>
    apply ticks_eq_zero
    intro x hlow hhigh hopen
    simp [Open, hsame x hlow hhigh, hwindow] at hopen
  | some window =>
    dsimp only
    rw [← ticks_window (a := current) (b := stop) window.1 window.2]
    apply ticks_congr
    intro x hlow hhigh
    simp [Open, hsame x hlow hhigh, hwindow]

theorem ticks_closed_day (hwindow : config.dayWindow current = none) :
    ticks config.Open current (nextMidnight current) = 0 := by
  rw [ticks_day _ le_rfl, hwindow]

end BusinessConfig

open BusinessConfig

variable {config : BusinessConfig}

theorem dayWindow_of_holiday {wall : ℤ} (h : date wall ∈ config.holidayDates) :
    config.dayWindow wall = none := by
  simp [dayWindow, h]

theorem dayWindow_of_weekday {wall : ℤ} (hholiday : date wall ∉ config.holidayDates) :
    config.dayWindow wall = (config.days (weekday wall)).map fun times =>
      (replaceTime wall times.1, replaceTime wall times.2) := by
  simp [dayWindow, hholiday]

/-! ## The measuring loop -/

theorem daysSpanned_next (h : nextMidnight current < endLocal) :
    daysSpanned (nextMidnight current) endLocal + 1 ≤ daysSpanned current endLocal := by
  have hdate := date_nextMidnight current
  have hmono := date_mono h.le
  unfold daysSpanned
  omega

theorem countLoop_eq (fuel : ℕ) (current : ℤ) (total : Minutes)
    (hfuel : current < endLocal → daysSpanned current endLocal ≤ fuel) :
    countLoop config endLocal fuel current total =
      total + totalMinutes (ticks config.Open current endLocal) := by
  induction fuel generalizing current total with
  | zero =>
    have hdone : endLocal ≤ current := by
      by_contra hlt
      have hpasses := hfuel (not_le.mp hlt)
      simp [daysSpanned] at hpasses
    simp [countLoop, ticks_of_le hdone]
  | succ fuel ih =>
    by_cases hlt : current < endLocal
    case neg => simp [countLoop, hlt, ticks_of_le (not_lt.mp hlt)]
    have hrest := fun total => ih (nextMidnight current) total (fun hnext => by
      have hpass := daysSpanned_next hnext
      have hall := hfuel hlt
      omega)
    have hcut := ticks_split (p := config.Open) (c := endLocal) (lt_nextMidnight current).le
    have hday := ticks_day config
      (min_le_left (nextMidnight current) endLocal)
    rw [countLoop, if_pos hlt]
    split
    · -- a holiday contributes nothing
      rename_i hholiday
      rw [dayWindow_of_holiday hholiday] at hday
      rw [hrest, hcut, hday, zero_add]
    · rename_i hholiday
      rw [dayWindow_of_weekday hholiday] at hday
      cases hdays : config.days (weekday current) with
      | none =>
        rw [hdays] at hday
        simp only [Option.map_none] at hday
        rw [hrest, hcut, hday, zero_add]
      | some times =>
        have hclose := replaceTime_lt_nextMidnight current times.2
        simp only [hdays, Option.map_some] at hday
        have hmin : min (min (nextMidnight current) endLocal) (replaceTime current times.2) =
            min endLocal (replaceTime current times.2) := by omega
        rw [hmin] at hday
        dsimp only
        rw [hrest, hcut, hday, totalMinutes_add, ← add_assoc]
        congr 1
        split
        · rename_i hwindow
          rw [max_eq_right (sub_pos.mpr hwindow).le]
        · rename_i hwindow
          rw [max_eq_left (sub_nonpos.mpr (not_lt.mp hwindow)), totalMinutes_zero, add_zero]

/-- `_count_business_minutes` counts the open ticks between the two readings. -/
theorem countBusinessMinutes_eq (startUtc endUtc : Instant) :
    countBusinessMinutes startUtc endUtc config =
      totalMinutes (ticks config.Open (config.tz.wall startUtc) (config.tz.wall endUtc)) := by
  unfold countBusinessMinutes
  dsimp only
  split
  · rename_i hreversed
    rw [ticks_of_le hreversed, totalMinutes_zero]
  · rw [countLoop_eq _ _ _ (fun _ => le_rfl), zero_add]

/-!
## Counting across changes of the offset

In an arbitrary zone, business minutes are counted between two readings of the local clock.  They
may be more than the minutes that have passed, if the clock was put forward.
-/

/-- `_count_business_minutes` in a zone that is given by its offset at each instant. -/
def countWith (offset : Instant → ℤ) (startUtc endUtc : Instant) (config : BusinessConfig) :
    Minutes :=
  let startLocal := startUtc + offset startUtc
  let endLocal := endUtc + offset endUtc
  if endLocal ≤ startLocal then 0
  else countLoop config endLocal (daysSpanned startLocal endLocal) startLocal 0

theorem countBusinessMinutes_eq_countWith (startUtc endUtc : Instant) (config : BusinessConfig) :
    countBusinessMinutes startUtc endUtc config =
      countWith (fun instant => config.tz.wall instant - instant) startUtc endUtc config := by
  unfold countBusinessMinutes countWith
  simp only [add_sub_cancel]

section Elapsed

variable {offset : Instant → ℤ}

theorem countWith_eq (startUtc endUtc : Instant) :
    countWith offset startUtc endUtc config =
      totalMinutes (ticks config.Open (startUtc + offset startUtc) (endUtc + offset endUtc)) := by
  unfold countWith
  dsimp only
  split
  · rename_i hreversed
    rw [ticks_of_le hreversed, totalMinutes_zero]
  · rw [countLoop_eq _ _ _ fun _ => le_rfl, zero_add]

theorem ticks_open_add_closed (config : BusinessConfig) (first last : ℤ) :
    ticks config.Open first last + ticks (fun wall => ¬ config.Open wall) first last =
      max 0 (last - first) := by
  have hsplit := ticks_and_add_and_not (p := fun _ => True) (q := config.Open) (a := first)
    (b := last)
  simp only [true_and] at hsplit
  rw [hsplit]
  rcases le_total first last with hle | hle
  · rw [ticks_true hle, max_eq_right (sub_nonneg.mpr hle)]
  · rw [ticks_of_le hle, max_eq_left (sub_nonpos.mpr hle)]

/--
No more business minutes are counted than minutes have passed if and only if the offset has not
grown by more than the closed time between the two readings.
-/
theorem countWith_le_elapsed_iff (offset : Instant → ℤ) (config : BusinessConfig)
    {startUtc endUtc : Instant} (hle : startUtc ≤ endUtc) :
    countWith offset startUtc endUtc config ≤ totalMinutes (endUtc - startUtc) ↔
      offset endUtc - offset startUtc ≤
        ticks (fun wall => ¬ config.Open wall) (startUtc + offset startUtc)
          (endUtc + offset endUtc) := by
  have hall := ticks_open_add_closed config (startUtc + offset startUtc)
    (endUtc + offset endUtc)
  have hclosed := ticks_nonneg (p := fun wall => ¬ config.Open wall)
    (a := startUtc + offset startUtc) (b := endUtc + offset endUtc)
  have hopen := ticks_nonneg (p := config.Open)
    (a := startUtc + offset startUtc) (b := endUtc + offset endUtc)
  rw [countWith_eq, totalMinutes_le]
  rcases le_total (startUtc + offset startUtc) (endUtc + offset endUtc) with hforward | hback
  · rw [max_eq_right (sub_nonneg.mpr hforward)] at hall
    constructor
    · intro hcount
      linarith
    · intro hgrown
      linarith
  · -- the clock was put back past the start: nothing is counted
    rw [max_eq_left (sub_nonpos.mpr hback)] at hall
    constructor
    · intro _
      linarith
    · intro _
      linarith

end Elapsed

/-! ### A clock that is put forward -/

/-- Open around the clock but for the last hour of the day. -/
def lateHours : BusinessConfig where
  tz := .utc
  days _ := some (.dial 0 0 0, .dial 23 0 0)
  holidayDates := []

/-- An hour is skipped at one in the morning. -/
def putForward (instant : Instant) : ℤ := if instant < 3600000000 then 0 else 3600000000

theorem closed_before_midnight {wall : ℤ} (hlow : -3600000000 ≤ wall) (hhigh : wall < 0) :
    ¬ lateHours.Open wall := by
  have hdate : date wall = -1 := by
    unfold date dayMicros
    omega
  simp only [Open, dayWindow, lateHours, List.not_mem_nil, if_false, Option.map_some]
  rintro ⟨-, hclose⟩
  simp only [replaceTime, hdate, Time.minuteStart, Time.dial, minuteMicros, dayMicros] at hclose
  norm_num at hclose
  omega

/-- From ten in the evening till two in the morning, with an hour off before midnight. -/
theorem countWith_le_elapsed_over_night :
    countWith putForward (-7200000000) 7200000000 lateHours ≤
      totalMinutes (7200000000 - -7200000000) := by
  refine (countWith_le_elapsed_iff putForward lateHours (by decide)).mpr ?_
  have hhour : ticks (fun wall => ¬ lateHours.Open wall) (-3600000000) 0 = 3600000000 := by
    rw [ticks_congr (q := fun _ => True) fun wall hlow hhigh =>
      iff_true_intro (closed_before_midnight hlow hhigh), ticks_true (by decide)]
    rfl
  have hafter := ticks_mono_right (p := fun wall => ¬ lateHours.Open wall) (a := -3600000000)
    (show (0 : ℤ) ≤ 10800000000 by decide)
  have hbefore := ticks_add (p := fun wall => ¬ lateHours.Open wall)
    (show (-7200000000 : ℤ) ≤ -3600000000 by decide)
    (show (-3600000000 : ℤ) ≤ 10800000000 by decide)
  have hnonneg := ticks_nonneg (p := fun wall => ¬ lateHours.Open wall) (a := -7200000000)
    (b := -3600000000)
  norm_num [putForward]
  linarith

/-- An hour passes, and two are counted. -/
theorem not_countWith_le_elapsed :
    ¬ ∀ (offset : Instant → ℤ) (config : BusinessConfig) (startUtc endUtc : Instant),
      startUtc ≤ endUtc →
        countWith offset startUtc endUtc config ≤ totalMinutes (endUtc - startUtc) := by
  intro hall
  have hhour := hall putForward lateHours 1800000000 5400000000 (by decide)
  revert hhour
  decide +kernel

end Kanzan.Sla

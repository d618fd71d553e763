import Kanzan.Sla.Counting
import Kanzan.Support.Lengths

/-!
# Business time as length

In a zone with a fixed offset the measuring loop adds up over adjoining spans, and what it counts is
the length of the part of a span that lies in an opening window.
-/

namespace Kanzan.Sla

open Support BusinessConfig MeasureTheory

/-- The opening window of a date, as readings of the local clock; holidays have none. -/
def BusinessConfig.windowOf (config : BusinessConfig) (date : ℤ) : Set ℝ :=
  {x | date ∉ config.holidayDates ∧ ∃ times, config.days ((date + 3) % 7) = some times ∧
    ((date * dayMicros + times.1.minuteStart : ℤ) : ℝ) ≤ x ∧
      x < ((date * dayMicros + times.2.minuteStart : ℤ) : ℝ)}

/-- The opening windows of all dates, as instants in a zone with a fixed offset. -/
def BusinessConfig.openTime (config : BusinessConfig) (offset : ℤ) : Set ℝ :=
  {x | ∃ date, x + offset ∈ config.windowOf date}

section Measure

variable {config : BusinessConfig} {offset : ℤ}

theorem floor_of_windowOf {day : ℤ} {x : ℝ} (hx : x ∈ config.windowOf day) : date ⌊x⌋ = day := by
  obtain ⟨-, times, -, hlow, hhigh⟩ := hx
  have hfloorLow := Int.le_floor.mpr hlow
  have hfloorHigh := Int.floor_lt.mpr hhigh
  have hstart := times.1.minuteStart_nonneg
  have hend := times.2.minuteStart_lt
  unfold dayMicros at *
  unfold date dayMicros
  omega

theorem mem_windowOf_iff (x : ℝ) :
    (∃ day, x ∈ config.windowOf day) ↔ config.Open ⌊x⌋ := by
  constructor
  · rintro ⟨day, hx⟩
    have hdate := floor_of_windowOf hx
    obtain ⟨hholiday, times, hdays, hlow, hhigh⟩ := hx
    have hweekday : weekday ⌊x⌋ = (day + 3) % 7 := by rw [weekday, hdate]
    rw [← hdate] at hholiday
    rw [BusinessConfig.Open, dayWindow_of_weekday hholiday, hweekday, hdays]
    dsimp only [Option.map_some, replaceTime]
    rw [hdate]
    exact ⟨Int.le_floor.mpr hlow, Int.floor_lt.mpr hhigh⟩
  · intro hopen
    by_cases hholiday : date ⌊x⌋ ∈ config.holidayDates
    · rw [BusinessConfig.Open, dayWindow_of_holiday hholiday] at hopen
      exact hopen.elim
    · rw [BusinessConfig.Open, dayWindow_of_weekday hholiday] at hopen
      cases hdays : config.days (weekday ⌊x⌋) with
      | none =>
        rw [hdays] at hopen
        exact hopen.elim
      | some times =>
        rw [hdays] at hopen
        exact ⟨date ⌊x⌋, hholiday, times, hdays, Int.le_floor.mp hopen.1,
          Int.floor_lt.mp hopen.2⟩

theorem Ico_inter_openTime (a c : Instant) :
    Set.Ico (a : ℝ) c ∩ config.openTime offset =
      during (fun tick => config.Open (tick + offset)) a c := by
  ext x
  have hfloor : ⌊x + offset⌋ = ⌊x⌋ + offset := Int.floor_add_intCast x offset
  simp only [BusinessConfig.openTime, during, Set.mem_inter_iff, Set.mem_Ico, Set.mem_ofPred_eq,
    mem_windowOf_iff, hfloor, and_assoc]

theorem count_fixed (hfixed : config.tz = .fixed offset) (a c : Instant) :
    countBusinessMinutes a c config =
      totalMinutes (ticks (fun tick => config.Open (tick + offset)) a c) := by
  rw [countBusinessMinutes_eq, hfixed, ← ticks_shift]
  rfl

/--
Business minutes add up over adjoining spans, and they are the length of the part of the span that
lies in an opening window.
-/
theorem countBusinessMinutes_measure (hfixed : config.tz = .fixed offset) {a b c : Instant}
    (hab : a ≤ b) (hbc : b ≤ c) :
    countBusinessMinutes a c config =
        countBusinessMinutes a b config + countBusinessMinutes b c config ∧
      (countBusinessMinutes a c config : ℝ) =
        volume.real (Set.Ico (a : ℝ) c ∩ config.openTime offset) / minuteMicros := by
  constructor
  · rw [count_fixed hfixed, count_fixed hfixed, count_fixed hfixed, ticks_add hab hbc,
      totalMinutes_add]
  · rw [Ico_inter_openTime, volume_during, count_fixed hfixed, totalMinutes]
    push_cast
    rfl

end Measure

/-- Weekdays from nine to five, in UTC. -/
def nineToFive : BusinessConfig where
  tz := .utc
  days day := if day < 5 then some (.dial 9 0 0, .dial 17 0 0) else none
  holidayDates := []

theorem countBusinessMinutes_measure_two_days :
    countBusinessMinutes 0 (2 * dayMicros) nineToFive =
        countBusinessMinutes 0 dayMicros nineToFive +
          countBusinessMinutes dayMicros (2 * dayMicros) nineToFive ∧
      (countBusinessMinutes 0 (2 * dayMicros) nineToFive : ℝ) =
        volume.real (Set.Ico ((0 : ℤ) : ℝ) ((2 * dayMicros : ℤ) : ℝ) ∩ nineToFive.openTime 0) /
          minuteMicros :=
  countBusinessMinutes_measure rfl (by decide) (by decide)

end Kanzan.Sla

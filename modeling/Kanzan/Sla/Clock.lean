import Mathlib.Data.Rat.Floor

/-!
# Instants, minutes and time zones

An instant is a whole number of microseconds since the epoch in UTC, the
resolution of the source's datetimes.  Minutes are the source's floats, taken
exactly.  A zone turns instants into wall-clock readings and back; arithmetic and
comparison of two readings of one zone look at the readings alone, as they do for
aware datetimes that share a `tzinfo`.
-/

namespace Kanzan.Sla

/-- Microseconds since the epoch, in UTC. -/
abbrev Instant := ℤ

abbrev Minutes := ℚ

def minuteMicros : ℤ := 60000000

def dayMicros : ℤ := 86400000000

/-- `delta.total_seconds() / 60`. -/
def totalMinutes (micros : ℤ) : Minutes := micros / minuteMicros

def roundHalfEven (x : ℚ) : ℤ :=
  let low := ⌊x⌋
  if x - low < 1 / 2 then low
  else if 1 / 2 < x - low then low + 1
  else if low % 2 = 0 then low else low + 1

/-- `datetime.timedelta(minutes=minutes)`. -/
def timedeltaMinutes (minutes : Minutes) : ℤ := roundHalfEven (minutes * minuteMicros)

theorem minuteMicros_pos : (0 : ℚ) < (minuteMicros : ℚ) := by norm_num [minuteMicros]

@[simp]
theorem roundHalfEven_intCast (n : ℤ) : roundHalfEven (n : ℚ) = n := by
  simp [roundHalfEven]

@[simp]
theorem totalMinutes_zero : totalMinutes 0 = 0 := by simp [totalMinutes]

theorem totalMinutes_add (a b : ℤ) : totalMinutes (a + b) = totalMinutes a + totalMinutes b := by
  simp only [totalMinutes, Int.cast_add, add_div]

theorem totalMinutes_sub (a b : ℤ) : totalMinutes (a - b) = totalMinutes a - totalMinutes b := by
  simp only [totalMinutes, Int.cast_sub, sub_div]

variable {a b : ℤ}

theorem totalMinutes_le : totalMinutes a ≤ totalMinutes b ↔ a ≤ b := by
  rw [totalMinutes, totalMinutes, div_le_div_iff_of_pos_right minuteMicros_pos, Int.cast_le]

theorem totalMinutes_lt : totalMinutes a < totalMinutes b ↔ a < b := by
  rw [totalMinutes, totalMinutes, div_lt_div_iff_of_pos_right minuteMicros_pos, Int.cast_lt]

theorem totalMinutes_inj : totalMinutes a = totalMinutes b ↔ a = b := by
  constructor
  · intro h
    exact le_antisymm (totalMinutes_le.mp h.le) (totalMinutes_le.mp h.ge)
  · exact congrArg totalMinutes

theorem totalMinutes_nonneg : 0 ≤ totalMinutes a ↔ 0 ≤ a := by
  rw [← totalMinutes_zero, totalMinutes_le]

theorem totalMinutes_nonpos : totalMinutes a ≤ 0 ↔ a ≤ 0 := by
  rw [← totalMinutes_zero, totalMinutes_le]

theorem totalMinutes_max (a : ℤ) : max 0 (totalMinutes a) = totalMinutes (max 0 a) := by
  rcases le_total 0 a with h | h
  · rw [max_eq_right h, max_eq_right (totalMinutes_nonneg.mpr h)]
  · rw [max_eq_left h, max_eq_left (totalMinutes_nonpos.mpr h), totalMinutes_zero]

theorem totalMinutes_sum (spans : List ℤ) :
    totalMinutes spans.sum = (spans.map totalMinutes).sum := by
  induction spans with
  | nil => exact totalMinutes_zero
  | cons span rest ih => rw [List.sum_cons, totalMinutes_add, ih, List.map_cons, List.sum_cons]

theorem natCast_eq_totalMinutes (n : ℕ) : (n : Minutes) = totalMinutes (n * minuteMicros) := by
  have hne : (minuteMicros : ℚ) ≠ 0 := minuteMicros_pos.ne'
  rw [totalMinutes, Int.cast_mul, Int.cast_natCast, mul_div_cancel_right₀ _ hne]

@[simp]
theorem timedeltaMinutes_totalMinutes (micros : ℤ) :
    timedeltaMinutes (totalMinutes micros) = micros := by
  have hne : (minuteMicros : ℚ) ≠ 0 := minuteMicros_pos.ne'
  rw [timedeltaMinutes, totalMinutes, div_mul_cancel₀ _ hne, roundHalfEven_intCast]

/-! ## Wall-clock readings -/

/-- `datetime.time`. -/
structure Time where
  hour : Fin 24
  minute : Fin 60
  second : Fin 60 := 0
  microsecond : Fin 1000000 := 0
  deriving DecidableEq, Repr

/-- A time of day by the clock; what exceeds the dial starts over. -/
def Time.dial (hour minute second : ℕ) : Time where
  hour := ⟨hour % 24, Nat.mod_lt hour (by decide)⟩
  minute := ⟨minute % 60, Nat.mod_lt minute (by decide)⟩
  second := ⟨second % 60, Nat.mod_lt second (by decide)⟩
  microsecond := ⟨0, by decide⟩

def Time.micros (t : Time) : ℤ :=
  ((t.hour.val * 60 + t.minute.val) * 60 + t.second.val) * 1000000 + t.microsecond.val

def Time.minuteStart (t : Time) : ℤ := (t.hour.val * 60 + t.minute.val) * minuteMicros

theorem Time.minuteStart_nonneg (t : Time) : 0 ≤ t.minuteStart := by
  unfold Time.minuteStart minuteMicros
  omega

theorem Time.minuteStart_lt (t : Time) : t.minuteStart < dayMicros := by
  have hhour := t.hour.isLt
  have hminute := t.minute.isLt
  unfold Time.minuteStart minuteMicros dayMicros
  omega

instance : LT Time := ⟨fun a b => a.micros < b.micros⟩

instance (a b : Time) : Decidable (a < b) := inferInstanceAs (Decidable (a.micros < b.micros))

/-- An aware local datetime: what the clock on the wall shows, and which of two
passes of a repeated hour it belongs to. -/
structure LocalTime where
  wall : ℤ
  fold : Bool := false
  deriving DecidableEq, Repr

/-- `current.date()`, as a day number. -/
def date (wall : ℤ) : ℤ := wall / dayMicros

/-- `current.weekday()`; day zero of the epoch is a Thursday. -/
def weekday (wall : ℤ) : ℤ := (date wall + 3) % 7

/-- `current.replace(hour=t.hour, minute=t.minute, second=0, microsecond=0)`. -/
def replaceTime (wall : ℤ) (t : Time) : ℤ :=
  date wall * dayMicros + t.minuteStart

/-- `(current + timedelta(days=1)).replace(hour=0, minute=0, second=0, microsecond=0)`. -/
def nextMidnight (wall : ℤ) : ℤ := (date wall + 1) * dayMicros

theorem lt_nextMidnight (wall : ℤ) : wall < nextMidnight wall := by
  unfold nextMidnight date dayMicros
  omega

@[simp]
theorem date_nextMidnight (wall : ℤ) : date (nextMidnight wall) = date wall + 1 := by
  unfold nextMidnight date dayMicros
  omega

theorem date_mono (h : a ≤ b) : date a ≤ date b := by
  unfold date dayMicros
  omega

theorem date_eq_of_between {wall x : ℤ} (hlow : wall ≤ x) (hhigh : x < nextMidnight wall) :
    date x = date wall := by
  unfold nextMidnight at hhigh
  unfold date dayMicros at *
  omega

theorem date_mul_le_replaceTime (wall : ℤ) (t : Time) :
    date wall * dayMicros ≤ replaceTime wall t := by
  have hnonneg := t.minuteStart_nonneg
  unfold replaceTime
  omega

theorem replaceTime_lt_nextMidnight (wall : ℤ) (t : Time) :
    replaceTime wall t < nextMidnight wall := by
  have hlt := t.minuteStart_lt
  have hsplit : (date wall + 1) * dayMicros = date wall * dayMicros + dayMicros := by ring
  unfold replaceTime nextMidnight
  omega

theorem replaceTime_congr (h : date a = date b) (t : Time) : replaceTime a t = replaceTime b t := by
  rw [replaceTime, replaceTime, h]

/--
`ZoneInfo`: how instants read on the local clock, and which instant a reading
denotes.  Converting to the zone and back returns the instant.
-/
structure ZoneInfo where
  fromUtc : Instant → LocalTime
  toUtc : LocalTime → Instant
  toUtc_fromUtc : ∀ instant, toUtc (fromUtc instant) = instant

def ZoneInfo.fixed (offset : ℤ) : ZoneInfo where
  fromUtc instant := ⟨instant + offset, false⟩
  toUtc reading := reading.wall - offset
  toUtc_fromUtc instant := by simp

/-- `ZoneInfo("UTC")`. -/
def ZoneInfo.utc : ZoneInfo := .fixed 0

def ZoneInfo.wall (tz : ZoneInfo) (instant : Instant) : ℤ := (tz.fromUtc instant).wall

/-- The local clock runs at the pace of the true one throughout a span. -/
def ZoneInfo.Steady (tz : ZoneInfo) (first last : Instant) : Prop :=
  ∀ instant, first ≤ instant → instant ≤ last →
    tz.wall instant - instant = tz.wall first - first

theorem ZoneInfo.Steady.mono {tz : ZoneInfo} {first last middle finish : Instant}
    (steady : tz.Steady first last) (hfirst : first ≤ middle) (hlast : finish ≤ last)
    (hmiddle : middle ≤ last) : tz.Steady middle finish := by
  intro instant hlow hhigh
  rw [steady instant (hfirst.trans hlow) (hhigh.trans hlast), steady middle hfirst hmiddle]

end Kanzan.Sla

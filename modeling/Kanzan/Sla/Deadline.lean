import Kanzan.Sla.Counting

/-!
# What the deadline loop computes

The deadline of some business time is the least reading by which that much time has
been open.  The loop finds it, unless it gives up first: it then stands at the business
day that its safety limit allows for, with open time still to be added.
-/

namespace Kanzan.Sla

open Support BusinessConfig

variable {config : BusinessConfig}

/-! ## The deadline loop -/

theorem nextMidnight_of_midnight {midnight : ℤ} (h : date midnight * dayMicros = midnight) :
    nextMidnight midnight = midnight + dayMicros := by
  unfold nextMidnight
  rw [add_mul, one_mul, h]

theorem date_mul_nextMidnight (wall : ℤ) :
    date (nextMidnight wall) * dayMicros = nextMidnight wall := by
  rw [date_nextMidnight]
  rfl

variable (config) in
/-- Searching for the next business day passes over no open tick. -/
theorem nextBusinessDayLoop_skips (fuel : ℕ) (midnight : ℤ)
    (hmidnight : date midnight * dayMicros = midnight) :
    midnight ≤ nextBusinessDayLoop config fuel midnight ∧
      ticks config.Open midnight (nextBusinessDayLoop config fuel midnight) = 0 := by
  induction fuel generalizing midnight with
  | zero => exact ⟨le_rfl, ticks_self⟩
  | succ fuel ih =>
    have hnext := nextMidnight_of_midnight hmidnight
    have hstep := lt_nextMidnight midnight
    have hskip : config.dayWindow midnight = none →
        midnight ≤ nextBusinessDayLoop config fuel (midnight + dayMicros) ∧
          ticks config.Open midnight
            (nextBusinessDayLoop config fuel (midnight + dayMicros)) = 0 := by
      intro hclosed
      obtain ⟨hle, hzero⟩ := ih (midnight + dayMicros) (by
        rw [← hnext]
        exact date_mul_nextMidnight midnight)
      rw [← hnext] at hle hzero ⊢
      exact ⟨by omega, by
        rw [ticks_add hstep.le hle, ticks_closed_day hclosed, hzero, add_zero]⟩
    rw [nextBusinessDayLoop]
    split
    · rename_i hholiday
      cases hdays : config.days (weekday midnight) with
      | none =>
        exact hskip (by rw [dayWindow_of_weekday hholiday, hdays]; rfl)
      | some times =>
        have hlow := date_mul_le_replaceTime midnight times.1
        rw [hmidnight] at hlow
        have hhigh := replaceTime_lt_nextMidnight midnight times.1
        refine ⟨hlow, ?_⟩
        dsimp only
        rw [ticks_day _ hhigh.le, dayWindow_of_weekday hholiday, hdays]
        exact max_eq_left (sub_nonpos.mpr ((min_le_left _ _).trans (le_max_right _ _)))
    · rename_i hholiday
      exact hskip (dayWindow_of_holiday (not_not.mp hholiday))

variable (config) in
/-- Moving on to the next business day uses up the rest of the current day. -/
theorem nextBusinessDayStart_ticks {start : ℤ} (current : LocalTime)
    (hstart : start ≤ current.wall) :
    start ≤ (nextBusinessDayStart config current).wall ∧
      ticks config.Open start (nextBusinessDayStart config current).wall =
        ticks config.Open start (nextMidnight current.wall) := by
  have hlt := lt_nextMidnight current.wall
  obtain ⟨hle, hzero⟩ := nextBusinessDayLoop_skips config 365
    (nextMidnight current.wall) (date_mul_nextMidnight current.wall)
  have hfirst : start ≤ nextMidnight current.wall := by omega
  refine ⟨hfirst.trans hle, ?_⟩
  change ticks config.Open start
    (nextBusinessDayLoop config 365 (nextMidnight current.wall)) = _
  rw [ticks_add hfirst hle, hzero, add_zero]

theorem awaitOpening_wall (current : LocalTime) (openT : Time) :
    (awaitOpening current openT).wall = max current.wall (replaceTime current.wall openT) := by
  unfold awaitOpening
  dsimp only
  split
  · rename_i hearly
    exact (max_eq_right hearly.le).symm
  · rename_i hlate
    exact (max_eq_left (not_lt.mp hlate)).symm

theorem awaitOpening_le (current : LocalTime) (openT : Time) :
    current.wall ≤ (awaitOpening current openT).wall := by
  rw [awaitOpening_wall]
  exact le_max_left _ _

theorem awaitOpening_nextMidnight (current : LocalTime) (openT : Time) :
    nextMidnight (awaitOpening current openT).wall = nextMidnight current.wall := by
  have hdate : date (awaitOpening current openT).wall = date current.wall := by
    apply date_eq_of_between (awaitOpening_le current openT)
    rw [awaitOpening_wall]
    exact max_lt (lt_nextMidnight _) (replaceTime_lt_nextMidnight _ _)
  rw [nextMidnight, nextMidnight, hdate]

/-! ## The walk -/

/-- What the deadline loop has done when it stops at a reading with some time left. -/
structure Walked (config : BusinessConfig) (fuel : ℕ) (start : LocalTime) (micros : ℤ)
    (reached : LocalTime) (left : ℤ) : Prop where
  nonneg : 0 ≤ left
  forward : start.wall ≤ reached.wall
  accounted : ticks config.Open start.wall reached.wall + left = micros
  done : left = 0 → reached.fold = false ∧ start.wall < reached.wall ∧
    config.Open (reached.wall - 1) ∧
    reached.wall ≤ ((nextBusinessDayStart config)^[fuel] start).wall
  gaveUp : 0 < left → reached = (nextBusinessDayStart config)^[fuel] start

theorem nextBusinessDayStart_congr {a b : LocalTime}
    (h : nextMidnight a.wall = nextMidnight b.wall) :
    nextBusinessDayStart config a = nextBusinessDayStart config b := by
  rw [nextBusinessDayStart, nextBusinessDayStart, h]

variable (config) in
theorem nextMidnight_le_nextBusinessDayStart (current : LocalTime) :
    nextMidnight current.wall ≤ (nextBusinessDayStart config current).wall :=
  (nextBusinessDayLoop_skips _ 365 _ (date_mul_nextMidnight current.wall)).1

variable (config) in
theorem le_iterate_nextBusinessDayStart (hops : ℕ) (current : LocalTime) :
    current.wall ≤ ((nextBusinessDayStart config)^[hops] current).wall := by
  induction hops generalizing current with
  | zero => exact le_rfl
  | succ hops ih =>
    rw [Function.iterate_succ_apply]
    have hmidnight := lt_nextMidnight current.wall
    have hnext := nextMidnight_le_nextBusinessDayStart config current
    have hrest := ih (nextBusinessDayStart config current)
    omega

theorem Walked.prepend {fuel : ℕ} {start reached : LocalTime} {micros used left : ℤ}
    (walked : Walked config fuel (nextBusinessDayStart config start) (micros - used) reached left)
    (hused : ticks config.Open start.wall (nextMidnight start.wall) = used) :
    Walked config (fuel + 1) start micros reached left := by
  obtain ⟨hle, hticks⟩ := nextBusinessDayStart_ticks config start le_rfl
  have haccounted := walked.accounted
  refine ⟨walked.nonneg, hle.trans walked.forward, ?_, ?_, ?_⟩
  · rw [ticks_add hle walked.forward, hticks, hused]
    omega
  · intro hleft
    obtain ⟨hfold, hlt, hopen, hbound⟩ := walked.done hleft
    exact ⟨hfold, hle.trans_lt hlt, hopen, hbound⟩
  · exact walked.gaveUp

theorem addLoop_done (fuel : ℕ) (current : LocalTime) :
    addLoop config fuel current 0 = (current, 0) := by
  cases fuel <;> simp [addLoop]

/-- The open time that a day has left: one span, from its opening to its closing. -/
structure DayAhead (config : BusinessConfig) (start opening closing : ℤ) : Prop where
  forward : start ≤ opening
  wide : opening < closing
  today : closing < nextMidnight start
  counts : ∀ wall ≤ closing, ticks config.Open start wall = max 0 (wall - opening)

theorem DayAhead.opens {start opening closing wall : ℤ}
    (ahead : DayAhead config start opening closing) (hlow : opening ≤ wall)
    (hhigh : wall < closing) : config.Open wall := by
  have hbefore := ahead.counts wall hhigh.le
  have hafter := ahead.counts (wall + 1) hhigh
  have hforward := ahead.forward
  rw [ticks_add (b := wall) (by omega) (by omega), hbefore] at hafter
  by_contra hclosed
  have hnone : ticks config.Open wall (wall + 1) = 0 := by
    apply ticks_eq_zero
    intro x hx hnext
    rwa [show x = wall by omega]
  omega

variable (config) in
/--
One pass of the deadline loop: it goes on to the next business day with what is left after this
one, or the deadline falls on this day.
-/
theorem addLoop_succ (fuel : ℕ) (current : LocalTime) {minutes : Minutes} (hminutes : 0 < minutes) :
    (∃ used, ticks config.Open current.wall (nextMidnight current.wall) = used ∧
      totalMinutes used < minutes ∧
      addLoop config (fuel + 1) current minutes =
        addLoop config fuel (nextBusinessDayStart config current)
          (minutes - totalMinutes used)) ∨
    ∃ opening closing, DayAhead config current.wall opening closing ∧
      minutes ≤ totalMinutes (closing - opening) ∧
      addLoop config (fuel + 1) current minutes =
        (⟨opening + timedeltaMinutes minutes, false⟩, 0) := by
  -- a day without open time ahead is passed over
  have hskip : ticks config.Open current.wall (nextMidnight current.wall) = 0 →
      ∃ used, ticks config.Open current.wall (nextMidnight current.wall) = used ∧
        totalMinutes used < minutes ∧
        addLoop config fuel (nextBusinessDayStart config current) minutes =
          addLoop config fuel (nextBusinessDayStart config current)
            (minutes - totalMinutes used) := by
    intro hclosed
    refine ⟨0, hclosed, ?_, ?_⟩
    · rwa [totalMinutes_zero]
    · rw [totalMinutes_zero, sub_zero]
  rw [addLoop, if_neg (not_le.mpr hminutes)]
  split
  · rename_i hholiday
    exact .inl (hskip (ticks_closed_day (dayWindow_of_holiday hholiday)))
  rename_i hholiday
  cases hdays : config.days (weekday current.wall) with
  | none =>
    exact .inl (hskip (ticks_closed_day (by rw [dayWindow_of_weekday hholiday, hdays]; rfl)))
  | some times =>
    have hday : ∀ stop ≤ nextMidnight current.wall, ticks config.Open current.wall stop =
        max 0 (min stop (replaceTime current.wall times.2) -
          (awaitOpening current times.1).wall) := by
      intro stop hstop
      rw [ticks_day _ hstop, dayWindow_of_weekday hholiday, hdays, awaitOpening_wall]
      rfl
    have hclose := replaceTime_lt_nextMidnight current.wall times.2
    have hmidnight := awaitOpening_nextMidnight current times.1
    have hwhole := hday _ le_rfl
    rw [min_eq_right hclose.le] at hwhole
    dsimp only
    rw [nextBusinessDayStart_congr hmidnight]
    split
    · -- the doors have closed for today
      rename_i hclosed
      rw [max_eq_left (sub_nonpos.mpr hclosed)] at hwhole
      exact .inl (hskip hwhole)
    rename_i hopen
    rw [max_eq_right (sub_pos.mpr (not_le.mp hopen)).le] at hwhole
    split
    · rename_i hfits
      refine .inr ⟨_, _, ⟨awaitOpening_le current times.1, not_le.mp hopen, hclose, ?_⟩, hfits,
        addLoop_done _ _⟩
      intro wall hwall
      rw [hday wall (hwall.trans hclose.le), min_eq_left hwall]
    · rename_i hexceeds
      exact .inl ⟨_, hwhole, not_le.mp hexceeds, rfl⟩

variable (config) in
/-- The deadline loop walks over as much open time as it takes off the minutes. -/
theorem addLoop_walked (fuel : ℕ) (current : LocalTime) {micros : ℤ} (hmicros : 0 < micros) :
    ∃ left, (addLoop config fuel current (totalMinutes micros)).2 = totalMinutes left ∧
      Walked config fuel current micros (addLoop config fuel current (totalMinutes micros)).1
        left := by
  induction fuel generalizing current micros with
  | zero =>
    refine ⟨micros, rfl, hmicros.le, le_rfl, by simp [addLoop], ?_, fun _ => rfl⟩
    intro hnone
    omega
  | succ fuel ih =>
    have hpositive : 0 < totalMinutes micros := by
      rw [← totalMinutes_zero]
      exact totalMinutes_lt.mpr hmicros
    rcases addLoop_succ config fuel current hpositive with
      ⟨used, hused, hless, hnext⟩ | ⟨opening, closing, ahead, hfits, htoday⟩
    · rw [totalMinutes_lt] at hless
      rw [hnext, ← totalMinutes_sub]
      obtain ⟨left, hleft, walked⟩ :=
        ih (nextBusinessDayStart config current) (sub_pos.mpr hless)
      exact ⟨left, hleft, walked.prepend hused⟩
    · rw [totalMinutes_le] at hfits
      have hforward := ahead.forward
      have htonight := ahead.today
      rw [htoday, timedeltaMinutes_totalMinutes]
      refine ⟨0, totalMinutes_zero.symm, le_rfl, by dsimp only; omega, ?_,
        fun _ => ⟨rfl, ?_, ?_, ?_⟩, fun hleft => absurd hleft (lt_irrefl 0)⟩
      · dsimp only
        rw [ahead.counts _ (by omega), add_zero, add_sub_cancel_left, max_eq_right hmicros.le]
      · dsimp only
        omega
      · exact ahead.opens (by dsimp only; omega) (by dsimp only; omega)
      · rw [Function.iterate_succ_apply]
        have hhop := nextMidnight_le_nextBusinessDayStart config current
        have hrest := le_iterate_nextBusinessDayStart config fuel
          (nextBusinessDayStart config current)
        dsimp only
        omega

/-! ## The deadline -/

def RunsOut (config : BusinessConfig) (start micros reading : ℤ) : Prop :=
  IsLeast {wall | start ≤ wall ∧ micros ≤ ticks config.Open start wall} reading

def lastBusinessDay (config : BusinessConfig) (start : LocalTime) : LocalTime :=
  (nextBusinessDayStart config)^[addLoopLimit] start

/--
The reading at which some open time is due, and the open time that it leaves over: none,
except where that time runs out only past the business days that the limit allows for.
-/
inductive Deadline (config : BusinessConfig) (start : LocalTime) (micros : ℤ) :
    LocalTime → ℤ → Prop
  | now (hmicros : micros = 0) : Deadline config start micros start 0
  | runsOut {wall : ℤ} (hmicros : 0 < micros)
      (hlimit : micros ≤ ticks config.Open start.wall (lastBusinessDay config start).wall)
      (hruns : RunsOut config start.wall micros wall) :
      Deadline config start micros ⟨wall, false⟩ 0
  | givesUp (hlimit : ticks config.Open start.wall (lastBusinessDay config start).wall < micros) :
      Deadline config start micros (lastBusinessDay config start)
        (micros - ticks config.Open start.wall (lastBusinessDay config start).wall)

theorem Walked.runsOut {fuel : ℕ} {start reached : LocalTime} {micros : ℤ}
    (walked : Walked config fuel start micros reached 0) :
    RunsOut config start.wall micros reached.wall := by
  obtain ⟨-, hlt, hopen, -⟩ := walked.done rfl
  have haccounted := walked.accounted
  have hlast : ticks config.Open start.wall reached.wall =
      ticks config.Open start.wall (reached.wall - 1) + 1 := by
    rw [ticks_add (b := reached.wall - 1) (by omega) (by omega), ticks_last hopen]
  refine ⟨⟨walked.forward, by omega⟩, ?_⟩
  rintro wall ⟨-, henough⟩
  by_contra hearly
  have hmono := ticks_mono_right (p := config.Open) (a := start.wall)
    (show wall ≤ reached.wall - 1 by omega)
  omega

variable (config) in
/-- `_add_business_minutes` stops at the deadline of its minutes. -/
theorem addBusinessMinutesLocal_deadline (startUtc : Instant) (micros : ℤ)
    (hmicros : 0 ≤ micros) :
    ∃ overdue, Deadline config (config.tz.fromUtc startUtc) micros
      (addBusinessMinutesLocal startUtc (totalMinutes micros) config).1 overdue := by
  rcases hmicros.eq_or_lt with rfl | hpositive
  · rw [addBusinessMinutesLocal, totalMinutes_zero, addLoop_done]
    exact ⟨0, .now rfl⟩
  obtain ⟨left, -, walked⟩ :=
    addLoop_walked config addLoopLimit (config.tz.fromUtc startUtc) hpositive
  rw [addBusinessMinutesLocal]
  generalize (addLoop config addLoopLimit (config.tz.fromUtc startUtc) (totalMinutes micros)).1 =
    reached at walked
  have haccounted := walked.accounted
  rcases walked.nonneg.eq_or_lt with rfl | hleft
  · obtain ⟨hfold, -, -, hbound⟩ := walked.done rfl
    have hmono := ticks_mono_right (p := config.Open)
      (a := (config.tz.fromUtc startUtc).wall) hbound
    have hruns := walked.runsOut
    obtain ⟨wall, fold⟩ := reached
    subst hfold
    exact ⟨0, .runsOut hpositive (by rw [lastBusinessDay]; omega) hruns⟩
  · have hreached : reached = lastBusinessDay config (config.tz.fromUtc startUtc) :=
      walked.gaveUp hleft
    rw [hreached] at haccounted ⊢
    exact ⟨_, .givesUp (by omega)⟩

theorem Deadline.unique {start reading other : LocalTime} {micros overdue otherwise : ℤ}
    (first : Deadline config start micros reading overdue)
    (second : Deadline config start micros other otherwise) :
    reading = other ∧ overdue = otherwise := by
  have hnonneg := ticks_nonneg (p := config.Open) (a := start.wall)
    (b := (lastBusinessDay config start).wall)
  cases first with
  | now hmicros =>
    cases second with
    | now => exact ⟨rfl, rfl⟩
    | runsOut hpositive => omega
    | givesUp hlimit => omega
  | runsOut hpositive hlimit hruns =>
    cases second with
    | now hmicros => omega
    | runsOut _ _ hother => exact ⟨by rw [hruns.unique hother], rfl⟩
    | givesUp hexceeds => omega
  | givesUp hexceeds =>
    cases second with
    | now hmicros => omega
    | runsOut _ hlimit _ => omega
    | givesUp => exact ⟨rfl, rfl⟩

theorem Deadline.accounted {start reading : LocalTime} {micros overdue : ℤ}
    (deadline : Deadline config start micros reading overdue) :
    0 ≤ overdue ∧ start.wall ≤ reading.wall ∧
      ticks config.Open start.wall reading.wall + overdue = micros := by
  cases deadline with
  | now hmicros => exact ⟨le_rfl, le_rfl, by simp [hmicros]⟩
  | @runsOut wall hpositive hlimit hruns =>
    refine ⟨le_rfl, hruns.1.1, ?_⟩
    have henough := hruns.1.2
    dsimp only at *
    by_contra hexceeds
    -- one tick earlier there would still have been enough
    have hstep : start.wall < wall := by
      by_contra hstart
      rw [ticks_of_le (not_lt.mp hstart)] at henough
      omega
    have hcut := ticks_add (p := config.Open) (a := start.wall) (b := wall - 1) (c := wall)
      (by omega) (by omega)
    have htick := ticks_le_length (p := config.Open) (show wall - 1 ≤ wall by omega)
    have hearlier := hruns.2 ⟨show start.wall ≤ wall - 1 by omega, by omega⟩
    omega
  | givesUp hlimit =>
    exact ⟨by omega, le_iterate_nextBusinessDayStart _ addLoopLimit start, by omega⟩

theorem Deadline.lt_ticks_iff {start reading : LocalTime} {micros overdue : ℤ}
    (deadline : Deadline config start micros reading overdue) (wall : ℤ) :
    micros < ticks config.Open start.wall wall ↔
      overdue < ticks config.Open reading.wall wall := by
  obtain ⟨hnonneg, hforward, haccounted⟩ := deadline.accounted
  rcases le_total reading.wall wall with hlate | hearly
  · rw [ticks_add hforward hlate]
    omega
  · have hmono := ticks_mono_right (p := config.Open) (a := start.wall) hearly
    rw [ticks_of_le (p := config.Open) hearly]
    omega

end Kanzan.Sla

import Kanzan.Sla.Shifts
import Kanzan.Sla.Walks

/-!
# Adding business minutes

In a zone with a fixed offset, adding business minutes undoes counting them.  Additions that end
before the safety limit add up, keep the order of their starts, and so a deadline that is shifted
again and again is that of the total.
-/

namespace Kanzan.Sla

open Support BusinessConfig

section Fixed

variable {config : BusinessConfig} {offset width : ℤ}

theorem wall_fixed (hfixed : config.tz = .fixed offset) (instant : Instant) :
    config.tz.wall instant = instant + offset := by
  rw [hfixed]
  rfl

theorem toUtc_fixed (hfixed : config.tz = .fixed offset) (reading : LocalTime) :
    config.tz.toUtc reading = reading.wall - offset := by
  rw [hfixed]
  rfl

/--
Counting from a start to the deadline of some minutes gives these minutes, to half a microsecond,
and exactly if they are whole microseconds.
-/
theorem count_addBusinessMinutesIn (hfixed : config.tz = .fixed offset)
    (workable : config.Workable width) (start : Instant) {minutes : Minutes}
    (hminutes : 0 ≤ minutes) (hcap : minutes ≤ 8758 * totalMinutes width) :
    |countBusinessMinutes start (addBusinessMinutesIn start minutes config) config - minutes| ≤
        totalMinutes 1 / 2 ∧
      ∀ micros, minutes = totalMinutes micros →
        countBusinessMinutes start (addBusinessMinutesIn start minutes config) config = minutes := by
  have spent := addLoop_spent config addLoopLimit (config.tz.fromUtc start) hminutes
  have hdeadline : config.tz.wall (addBusinessMinutesIn start minutes config) =
      (addBusinessMinutesLocal start minutes config).1.wall := by
    rw [wall_fixed hfixed, addBusinessMinutesIn, toUtc_fixed hfixed, sub_add_cancel]
  have hcount : countBusinessMinutes start (addBusinessMinutesIn start minutes config) config =
      totalMinutes (ticks config.Open (config.tz.fromUtc start).wall
        (addBusinessMinutesLocal start minutes config).1.wall) := by
    rw [countBusinessMinutes_eq, hdeadline]
    rfl
  -- whatever were left would lie beyond 8758 windows
  have hdone : (addBusinessMinutesLocal start minutes config).2 = 0 := by
    refine le_antisymm (not_lt.mp fun hleft => ?_) spent.nonneg
    obtain ⟨hlast, hexact⟩ := spent.gaveUp hleft
    have hfar := workable.le_ticks_last (config.tz.fromUtc start)
    rw [← totalMinutes_le, lastBusinessDay, ← hlast] at hfar
    have hscale : totalMinutes (8758 * width) = 8758 * totalMinutes width := by
      rw [totalMinutes, totalMinutes, Int.cast_mul, mul_div_assoc]
      rfl
    rw [addBusinessMinutesLocal] at hleft
    linarith
  have hclose : |countBusinessMinutes start (addBusinessMinutesIn start minutes config) config -
      minutes| ≤ totalMinutes 1 / 2 := by
    have haccounted := spent.accounted
    rw [addBusinessMinutesLocal] at hdone hcount
    rw [hdone, add_zero] at haccounted
    rw [hcount]
    exact haccounted
  refine ⟨hclose, ?_⟩
  rintro micros rfl
  rw [hcount] at hclose ⊢
  rw [eq_of_abs_totalMinutes_sub_le hclose]

theorem workable_nineToFive : nineToFive.Workable (480 * minuteMicros) where
  pos := by decide
  windows := by
    intro day times hdays
    unfold nineToFive at hdays
    dsimp only at hdays
    split at hdays
    · rw [← Option.some.inj hdays]
      decide
    · cases hdays
  dates := by
    intro day
    have hweekday : ∀ later : ℤ, (day + later + 3) % 7 < 5 →
        nineToFive.IsBusinessDate (day + later) := by
      intro later hlater
      refine ⟨List.not_mem_nil, ?_⟩
      dsimp only [nineToFive]
      rw [if_pos hlater]
      rfl
    by_cases hweekend : (day + 3) % 7 < 5
    · exact ⟨0, by decide, hweekday 0 (by omega)⟩
    · exact ⟨2, by decide, hweekday 2 (by omega)⟩

theorem count_addBusinessMinutesIn_ninety :
    countBusinessMinutes 0 (addBusinessMinutesIn 0 90 nineToFive) nineToFive = 90 := by
  have hninety : (90 : Minutes) = totalMinutes (90 * minuteMicros) := by
    norm_num [totalMinutes, minuteMicros]
  have hcap : (90 : Minutes) ≤ 8758 * totalMinutes (480 * minuteMicros) := by
    norm_num [totalMinutes, minuteMicros]
  exact (count_addBusinessMinutesIn rfl workable_nineToFive 0 (by norm_num) hcap).2 _ hninety

/-- A seventh of a minute is no whole number of microseconds. -/
theorem not_count_addBusinessMinutesIn :
    ¬ ∀ (config : BusinessConfig) (offset width : ℤ) (start : Instant) (minutes : Minutes),
      config.tz = .fixed offset → config.Workable width → 0 ≤ minutes →
        minutes ≤ 8758 * totalMinutes width →
          countBusinessMinutes start (addBusinessMinutesIn start minutes config) config =
            minutes := by
  intro hall
  have hseventh := hall nineToFive 0 (480 * minuteMicros) 0 (1 / 7) rfl workable_nineToFive
    (by norm_num) (by norm_num [totalMinutes, minuteMicros])
  rw [countBusinessMinutes_eq] at hseventh
  generalize ticks nineToFive.Open _ _ = count at hseventh
  have hmicros : (7 : ℚ) * count = 60000000 := by
    rw [totalMinutes, div_eq_iff minuteMicros_pos.ne'] at hseventh
    rw [hseventh]
    norm_num [minuteMicros]
  have hwhole : 7 * count = 60000000 := by exact_mod_cast hmicros
  omega

/-! ## Landing -/

/-- An addition ends before the safety limit. -/
def Finishes (config : BusinessConfig) (start : Instant) (micros : ℤ) : Prop :=
  (addBusinessMinutesLocal start (totalMinutes micros) config).2 = 0

/-- An instant is the deadline of some open time from another one. -/
structure Lands (config : BusinessConfig) (offset : ℤ) (start : Instant) (micros : ℤ)
    (due : Instant) : Prop where
  forward : start ≤ due
  accounted : ticks config.Open (start + offset) (due + offset) = micros
  now : micros = 0 → due = start
  runsOut : 0 < micros → RunsOut config (start + offset) micros (due + offset)

namespace Lands

variable {start due next other later : Instant} {micros more : ℤ}

theorem refl (config : BusinessConfig) (offset : ℤ) (start : Instant) :
    Lands config offset start 0 start where
  forward := le_rfl
  accounted := ticks_self
  now := fun _ => rfl
  runsOut := fun hpos => absurd hpos (lt_irrefl 0)

theorem nonneg (lands : Lands config offset start micros due) : 0 ≤ micros :=
  lands.accounted ▸ ticks_nonneg

theorem unique (first : Lands config offset start micros due)
    (second : Lands config offset start micros other) : due = other := by
  rcases first.nonneg.eq_or_lt with hzero | hpos
  · rw [first.now hzero.symm, second.now hzero.symm]
  · exact add_right_cancel ((first.runsOut hpos).unique (second.runsOut hpos))

/-- The deadline of what comes after a deadline. -/
theorem add (first : Lands config offset start micros due)
    (second : Lands config offset due more next) :
    Lands config offset start (micros + more) next := by
  have hfirst := first.nonneg
  have hsecond := second.nonneg
  have hsum : ticks config.Open (start + offset) (next + offset) = micros + more := by
    rw [ticks_add (add_le_add_left first.forward offset) (add_le_add_left second.forward offset),
      first.accounted, second.accounted]
  refine ⟨first.forward.trans second.forward, hsum, fun hzero => ?_, fun hpos => ?_⟩
  · rw [second.now (by omega), first.now (by omega)]
  · refine ⟨⟨add_le_add_left (first.forward.trans second.forward) offset, hsum.ge⟩, ?_⟩
    rintro wall ⟨hstart, henough⟩
    rcases hsecond.eq_or_lt with hzero | hmore
    · rw [second.now hzero.symm]
      exact (first.runsOut (by omega)).2 ⟨hstart, by omega⟩
    -- the first part runs out before, and the rest is counted from there
    have hpast : due + offset ≤ wall := by
      rcases hfirst.eq_or_lt with hzero | hpositive
      · rw [first.now hzero.symm]
        exact hstart
      · exact (first.runsOut hpositive).2 ⟨hstart, by omega⟩
    have hcut := ticks_add (p := config.Open) (add_le_add_left first.forward offset) hpast
    have hcount := first.accounted
    exact (second.runsOut hmore).2 ⟨hpast, by omega⟩

theorem mono (first : Lands config offset start micros due)
    (second : Lands config offset other micros later) (hle : start ≤ other) : due ≤ later := by
  rcases first.nonneg.eq_or_lt with hzero | hpos
  · rw [first.now hzero.symm]
    exact hle.trans second.forward
  · have hstart : start + offset ≤ other + offset := add_le_add_left hle offset
    have hend : other + offset ≤ later + offset := add_le_add_left second.forward offset
    have henough : micros ≤ ticks config.Open (start + offset) (later + offset) := by
      have hnonneg := ticks_nonneg (p := config.Open) (a := start + offset) (b := other + offset)
      rw [ticks_add hstart hend, second.accounted]
      omega
    have hleast : due + offset ≤ later + offset :=
      (first.runsOut hpos).2 ⟨hstart.trans hend, henough⟩
    exact le_of_add_le_add_right hleast

end Lands

theorem lands_addBusinessMinutesIn (hfixed : config.tz = .fixed offset) {start : Instant}
    {micros : ℤ} (hmicros : 0 ≤ micros) (finishes : Finishes config start micros) :
    Lands config offset start micros
      (addBusinessMinutesIn start (totalMinutes micros) config) := by
  rcases hmicros.eq_or_lt with rfl | hpos
  · have hsame : addBusinessMinutesIn start (totalMinutes 0) config = start := by
      rw [addBusinessMinutesIn, addBusinessMinutesLocal, totalMinutes_zero, addLoop_done]
      exact config.tz.toUtc_fromUtc start
    rw [hsame]
    exact .refl config offset start
  · obtain ⟨left, hleft, walked⟩ :=
      addLoop_walked config addLoopLimit (config.tz.fromUtc start) hpos
    have hnone : left = 0 := by
      rw [← totalMinutes_inj, ← hleft, totalMinutes_zero]
      exact finishes
    rw [hnone] at walked
    have hdue : addBusinessMinutesIn start (totalMinutes micros) config + offset =
        (addLoop config addLoopLimit (config.tz.fromUtc start) (totalMinutes micros)).1.wall := by
      rw [addBusinessMinutesIn, toUtc_fixed hfixed, sub_add_cancel]
      rfl
    have hstart : (config.tz.fromUtc start).wall = start + offset := wall_fixed hfixed start
    have hforward := walked.forward
    have haccounted := walked.accounted
    have hruns := walked.runsOut
    rw [← hdue, hstart] at hforward haccounted hruns
    refine ⟨le_of_add_le_add_right hforward, (add_zero _).symm.trans haccounted, fun hzero => ?_, fun _ => hruns⟩
    rw [hzero] at hpos
    exact absurd hpos (lt_irrefl 0)

theorem finishes_of_workable (workable : config.Workable width) (start : Instant) {micros : ℤ}
    (hmicros : 0 ≤ micros) (hcap : micros ≤ 8758 * width) : Finishes config start micros := by
  have spent := addLoop_spent config addLoopLimit (config.tz.fromUtc start)
    (totalMinutes_nonneg.mpr hmicros)
  refine le_antisymm (not_lt.mp fun hleft => ?_) spent.nonneg
  obtain ⟨hlast, hexact⟩ := spent.gaveUp hleft
  have hfar := hcap.trans (workable.le_ticks_last (config.tz.fromUtc start))
  rw [← totalMinutes_le, lastBusinessDay, ← hlast] at hfar
  rw [addBusinessMinutesLocal] at hleft
  linarith

/-! ## One after the other -/

def addEach (config : BusinessConfig) (start : Instant) (times : List ℤ) : Instant :=
  times.foldl (fun due micros => addBusinessMinutesIn due (totalMinutes micros) config) start

/-- Each of them ends before the safety limit. -/
def FinishesEach (config : BusinessConfig) : Instant → List ℤ → Prop
  | _, [] => True
  | start, micros :: rest =>
    Finishes config start micros ∧
      FinishesEach config (addBusinessMinutesIn start (totalMinutes micros) config) rest

theorem lands_addEach (hfixed : config.tz = .fixed offset) {start : Instant} {times : List ℤ}
    (hnonneg : ∀ micros ∈ times, 0 ≤ micros) (finishes : FinishesEach config start times) :
    Lands config offset start times.sum (addEach config start times) := by
  induction times generalizing start with
  | nil => exact .refl config offset start
  | cons micros rest ih =>
    have hfirst := lands_addBusinessMinutesIn hfixed (hnonneg micros List.mem_cons_self)
      finishes.1
    rw [List.sum_cons]
    exact hfirst.add (ih (fun more hmore => hnonneg more (List.mem_cons_of_mem _ hmore))
      finishes.2)

theorem dueAfter_eq_addEach {tenant : Tenant} (hconfig : getBusinessConfig tenant = some config)
    (start : Instant) (minutes : ℕ) (pauses : List (Instant × Instant)) :
    dueAfter tenant start minutes pauses =
      addEach config start (minutes * minuteMicros :: pauses.map (pausedMicros tenant)) := by
  have hshifted : ∀ due pause, shifted tenant due pause =
      addBusinessMinutesIn due (totalMinutes (pausedMicros tenant pause)) config := by
    intro due pause
    rw [shifted_eq, pausedMicros, addBusinessMinutes, hconfig]
    split
    · rename_i hnone
      rw [max_eq_left hnone, addBusinessMinutesIn, addBusinessMinutesLocal, totalMinutes_zero,
        addLoop_done]
      exact (config.tz.toUtc_fromUtc due).symm
    · rename_i hpos
      rw [max_eq_right (not_le.mp hpos).le]
  have hstart : addBusinessMinutes start minutes tenant =
      addBusinessMinutesIn start (totalMinutes (minutes * minuteMicros)) config := by
    rw [addBusinessMinutes, hconfig, natCast_eq_totalMinutes]
  rw [dueAfter, addEach, List.foldl_cons, hstart]
  induction pauses using List.reverseRecOn with
  | nil => rfl
  | append_singleton pauses pause ih =>
    rw [List.foldl_append, ih, List.map_append, List.foldl_append]
    exact hshifted _ pause

end Fixed

end Kanzan.Sla

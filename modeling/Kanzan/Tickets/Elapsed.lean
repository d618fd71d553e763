import Mathlib.Algebra.Order.BigOperators.Group.List
import Kanzan.Sla.Counting
import Kanzan.Tickets.Scan

/-!
# Elapsed time and its pauses

The scan subtracts two counts, of the span since creation and of the pauses, to get at
one measure: the clock time of the span outside the pauses.  The subtraction is exact as
far as the counts are, and the pauses do not reach past the instant of the scan.
-/

namespace Kanzan.Tickets

open Sla Support

/-! ## What the scan means to measure -/

/-- The instants at which the clock of a policy runs, pauses aside. -/
def Ticking (config : Option BusinessConfig) (instant : Instant) : Prop :=
  match config with
  | none => True
  | some config => config.Open (config.tz.wall instant)

instance (config : Option BusinessConfig) : DecidablePred (Ticking config) := fun instant =>
  match config with
  | none => isTrue trivial
  | some config => inferInstanceAs (Decidable (config.Open (config.tz.wall instant)))

def SLAPause.Covers (pause : SLAPause) (instant : Instant) : Prop :=
  pause.pausedAt ≤ instant ∧ pause.resumedAt.all (fun resumedAt => decide (instant < resumedAt))

def Unpaused (pauses : List SLAPause) (instant : Instant) : Prop :=
  ∀ pause ∈ pauses, ¬ pause.Covers instant

instance (pause : SLAPause) : DecidablePred pause.Covers := fun _ =>
  inferInstanceAs (Decidable (_ ∧ _))

instance (pauses : List SLAPause) : DecidablePred (Unpaused pauses) := fun _ =>
  inferInstanceAs (Decidable (∀ pause ∈ pauses, _))

def unpausedMicros (config : Option BusinessConfig) (pauses : List SLAPause)
    (createdAt now : Instant) : ℤ :=
  ticks (fun instant => Ticking config instant ∧ Unpaused pauses instant) createdAt now

/-- The pauses of a ticket: disjoint, none before its creation. -/
structure PausedSince (createdAt : Instant) (pauses : List SLAPause) : Prop where
  started : ∀ pause ∈ pauses, createdAt ≤ pause.pausedAt
  ordered : ∀ pause ∈ pauses, ∀ resumedAt, pause.resumedAt = some resumedAt →
    pause.pausedAt ≤ resumedAt
  disjoint : pauses.Pairwise fun first second =>
    ∀ instant, ¬ (first.Covers instant ∧ second.Covers instant)

/-! ## What the scan counts -/

def countedMicros (config : Option BusinessConfig) (startUtc endUtc : Instant) : ℤ :=
  match config with
  | none => endUtc - startUtc
  | some config => ticks config.Open (config.tz.wall startUtc) (config.tz.wall endUtc)

theorem minutesBetween_eq (config : Option BusinessConfig) (startUtc endUtc : Instant) :
    minutesBetween config startUtc endUtc =
      totalMinutes (countedMicros config startUtc endUtc) := by
  cases config with
  | none => rfl
  | some config => exact countBusinessMinutes_eq startUtc endUtc

/-- The error of a count: local readings that the zone repeats or skips in business hours,
and a wall-clock span taken backwards. -/
def countingError (config : Option BusinessConfig) (startUtc endUtc : Instant) : ℤ :=
  countedMicros config startUtc endUtc - ticks (Ticking config) startUtc endUtc

def SLAPause.finish (now : Instant) (pause : SLAPause) : Instant := pause.resumedAt.getD now

/-- The clock time that resumed pauses have after `now`. -/
def pausedBeyond (config : Option BusinessConfig) (pauses : List SLAPause) (now : Instant) : ℤ :=
  (pauses.map fun pause =>
    ticks (Ticking config) (max pause.pausedAt now) (pause.finish now)).sum

def pauseErrors (config : Option BusinessConfig) (pauses : List SLAPause) (now : Instant) : ℤ :=
  (pauses.map fun pause => countingError config pause.pausedAt (pause.finish now)).sum

/-- How much more the scan subtracts than what the pauses took from the clock. -/
def overcount (config : Option BusinessConfig) (pauses : List SLAPause)
    (createdAt now : Instant) : ℤ :=
  pausedBeyond config pauses now + pauseErrors config pauses now -
    countingError config createdAt now

section Measure

variable {config : Option BusinessConfig} {pauses : List SLAPause} {createdAt now : Instant}

theorem SLAPause.covers_iff_of_lt (pause : SLAPause) {instant : Instant} (h : instant < now) :
    pause.Covers instant ↔ pause.pausedAt ≤ instant ∧ instant < pause.finish now := by
  unfold SLAPause.Covers SLAPause.finish
  cases pause.resumedAt with
  | none => simp [h]
  | some resumedAt => simp

theorem unpausedMicros_eq (paused : PausedSince createdAt pauses) :
    unpausedMicros config pauses createdAt now =
      ticks (Ticking config) createdAt now -
        (pauses.map fun pause =>
          ticks (Ticking config) pause.pausedAt (min (pause.finish now) now)).sum := by
  have hwindows := ticks_outside (p := Ticking config) (a := createdAt) (b := now)
    (pauses.map fun pause => (pause.pausedAt, pause.finish now))
    (by
      intro window hwindow
      obtain ⟨pause, hpause, rfl⟩ := List.mem_map.mp hwindow
      exact paused.started pause hpause)
    (by
      rw [List.pairwise_map]
      refine paused.disjoint.imp fun {first second} hdisjoint instant hbefore hboth => ?_
      rw [← first.covers_iff_of_lt hbefore, ← second.covers_iff_of_lt hbefore] at hboth
      exact hdisjoint instant hboth)
  rw [List.map_map] at hwindows
  refine Eq.trans ?_ hwindows
  apply ticks_congr
  intro instant _ hbefore
  simp only [Unpaused, List.forall_mem_map, SLAPause.covers_iff_of_lt _ hbefore]

/-- The count of a pause, against its clock time before `now`. -/
theorem countedMicros_pause (pause : SLAPause) :
    countedMicros config pause.pausedAt (pause.finish now) =
      ticks (Ticking config) pause.pausedAt (min (pause.finish now) now) +
        (ticks (Ticking config) (max pause.pausedAt now) (pause.finish now) +
          countingError config pause.pausedAt (pause.finish now)) := by
  have hcut := ticks_cut (p := Ticking config) (a := pause.pausedAt) (c := pause.finish now) now
  rw [countingError]
  omega

theorem getTotalPauseMinutes_eq (paused : PausedSince createdAt pauses) :
    getTotalPauseMinutes pauses createdAt now config =
      totalMinutes (pauses.map fun pause =>
        countedMicros config pause.pausedAt (pause.finish now)).sum := by
  have hfilter : pauses.filter (fun pause => createdAt ≤ pause.pausedAt) = pauses := by
    rw [List.filter_eq_self]
    intro pause hpause
    exact decide_eq_true (paused.started pause hpause)
  rw [getTotalPauseMinutes, hfilter, totalMinutes_sum, List.map_map]
  congr 1
  apply List.map_congr_left
  intro pause _
  exact minutesBetween_eq config _ _

end Measure

theorem getEffectiveElapsedMinutes_eq {pauses : List SLAPause} {createdAt : Instant}
    (paused : PausedSince createdAt pauses) (policy : SLAPolicy) (tenant : Tenant)
    (now : Instant) :
    getEffectiveElapsedMinutes pauses createdAt policy tenant now =
      totalMinutes (max 0 (unpausedMicros (policyConfig policy tenant) pauses createdAt now -
        overcount (policyConfig policy tenant) pauses createdAt now)) := by
  have hsum : (pauses.map fun pause =>
      countedMicros (policyConfig policy tenant) pause.pausedAt (pause.finish now)).sum =
      (pauses.map fun pause => ticks (Ticking (policyConfig policy tenant)) pause.pausedAt
        (min (pause.finish now) now)).sum +
      (pausedBeyond (policyConfig policy tenant) pauses now +
        pauseErrors (policyConfig policy tenant) pauses now) := by
    rw [pausedBeyond, pauseErrors, ← List.sum_map_add, ← List.sum_map_add]
    simp only [countedMicros_pause]
  rw [getEffectiveElapsedMinutes, minutesBetween_eq, getTotalPauseMinutes_eq paused, hsum,
    ← totalMinutes_sub, totalMinutes_max, unpausedMicros_eq paused, overcount, countingError]
  congr 2
  omega

/-! ## When the subtraction is exact -/

/-- The elapsed minutes are the clock time outside the pauses, between nothing and the
whole span. -/
def ElapsedIsUnpaused (pauses : List SLAPause) (createdAt : Instant) (policy : SLAPolicy)
    (tenant : Tenant) (now : Instant) : Prop :=
  let config := policyConfig policy tenant
  let minutes := getEffectiveElapsedMinutes pauses createdAt policy tenant now
  minutes = totalMinutes (unpausedMicros config pauses createdAt now) ∧
    0 ≤ minutes ∧ minutes ≤ minutesBetween config createdAt now

variable {first last : Instant}

section Exact

variable {config : Option BusinessConfig} {pauses : List SLAPause} {createdAt now : Instant}
variable {policy : SLAPolicy} {tenant : Tenant}

variable (config pauses createdAt now) in
theorem unpausedMicros_nonneg : 0 ≤ unpausedMicros config pauses createdAt now := ticks_nonneg

theorem unpausedMicros_le :
    unpausedMicros config pauses createdAt now ≤ ticks (Ticking config) createdAt now :=
  ticks_le fun _ _ _ => And.left

theorem countedMicros_none (h : createdAt ≤ now) :
    countedMicros none createdAt now = ticks (Ticking none) createdAt now :=
  (ticks_true h).symm

/-- The elapsed minutes exceed those of the span only where they are wrong. -/
theorem elapsed_le_of_eq (paused : PausedSince createdAt pauses) (hnow : createdAt ≤ now)
    (hunpaused : getEffectiveElapsedMinutes pauses createdAt policy tenant now =
      totalMinutes (unpausedMicros (policyConfig policy tenant) pauses createdAt now)) :
    getEffectiveElapsedMinutes pauses createdAt policy tenant now ≤
      minutesBetween (policyConfig policy tenant) createdAt now := by
  cases hconfig : policyConfig policy tenant with
  | none =>
    rw [hunpaused, hconfig, minutesBetween_eq, totalMinutes_le, countedMicros_none hnow]
    exact unpausedMicros_le
  | some config =>
    have hpauses : 0 ≤ getTotalPauseMinutes pauses createdAt now (some config) := by
      rw [getTotalPauseMinutes_eq paused, totalMinutes_nonneg]
      apply List.sum_nonneg
      intro counted hcounted
      obtain ⟨pause, -, rfl⟩ := List.mem_map.mp hcounted
      exact ticks_nonneg
    have hspan : 0 ≤ minutesBetween (some config) createdAt now := by
      rw [minutesBetween_eq, totalMinutes_nonneg]
      exact ticks_nonneg
    rw [getEffectiveElapsedMinutes, hconfig]
    exact max_le hspan (sub_le_self _ hpauses)

theorem countingError_of_steady {config : BusinessConfig} (steady : config.tz.Steady first last)
    (h : first ≤ last) : countingError (some config) first last = 0 := by
  have hwall : ∀ instant, first ≤ instant → instant ≤ last →
      config.tz.wall instant = instant + (config.tz.wall first - first) := by
    intro instant hlow hhigh
    have hoffset := steady instant hlow hhigh
    omega
  have hcount : ticks config.Open (config.tz.wall first) (config.tz.wall last) =
      ticks (Ticking (some config)) first last := by
    rw [hwall first le_rfl h, hwall last h le_rfl, ticks_shift]
    apply ticks_congr
    intro instant hlow hhigh
    rw [Ticking, hwall instant hlow hhigh.le]
  exact sub_eq_zero.mpr hcount

theorem countingError_of_le (h : first ≤ last)
    (steady : ∀ business, config = some business → business.tz.Steady first last) :
    countingError config first last = 0 := by
  cases config with
  | none => exact sub_eq_zero.mpr (countedMicros_none h)
  | some config => exact countingError_of_steady (steady config rfl) h

/-- A scan that looks at past pauses only, in a span without a change of the zone's offset,
overcounts nothing. -/
theorem overcount_of_past (paused : PausedSince createdAt pauses) (hnow : createdAt ≤ now)
    (hpast : ∀ pause ∈ pauses, pause.pausedAt ≤ now ∧ pause.finish now ≤ now)
    (steady : ∀ business, config = some business → business.tz.Steady createdAt now) :
    overcount config pauses createdAt now = 0 := by
  have hbeyond : pausedBeyond config pauses now = 0 := by
    apply List.sum_eq_zero
    intro beyond hmem
    obtain ⟨pause, hpause, rfl⟩ := List.mem_map.mp hmem
    exact ticks_of_le ((hpast pause hpause).2.trans (le_max_right _ _))
  have herrors : pauseErrors config pauses now = 0 := by
    apply List.sum_eq_zero
    intro error hmem
    obtain ⟨pause, hpause, rfl⟩ := List.mem_map.mp hmem
    have hstart := paused.started pause hpause
    obtain ⟨hbegun, hover⟩ := hpast pause hpause
    have hlength : pause.pausedAt ≤ pause.finish now := by
      cases hresumed : pause.resumedAt with
      | none => simpa [SLAPause.finish, hresumed] using hbegun
      | some resumedAt =>
        simpa [SLAPause.finish, hresumed] using paused.ordered pause hpause resumedAt hresumed
    exact countingError_of_le hlength fun business hbusiness =>
      (steady business hbusiness).mono hstart hover hbegun
  rw [overcount, hbeyond, herrors, countingError_of_le hnow steady]
  rfl

end Exact

/-- A policy whose clock runs around the clock. -/
def wallClockPolicy : SLAPolicy :=
  { pk := 1, priority := .medium, firstResponseMinutes := 30, resolutionMinutes := 60,
    businessHoursOnly := false }

/-- A pause of half an hour that ended before the scan. -/
def endedPause : SLAPause :=
  { pk := 0, ticket := 0, pausedAt := 600000000, resumedAt := some 2400000000 }

theorem pausedSince_singleton {pause : SLAPause} {createdAt resumedAt : Instant}
    (hstart : createdAt ≤ pause.pausedAt) (hresumed : pause.resumedAt = some resumedAt)
    (hordered : pause.pausedAt ≤ resumedAt) : PausedSince createdAt [pause] where
  started := List.forall_mem_singleton.mpr hstart
  ordered := List.forall_mem_singleton.mpr fun other hother => by
    rw [hresumed] at hother
    rwa [← Option.some.inj hother]
  disjoint := List.pairwise_singleton _ _

theorem endedPause_since : PausedSince 0 [endedPause] :=
  pausedSince_singleton (by decide) rfl (by decide)

/-- A pause that began after ten minutes and is resumed after an hour and a half. -/
def straddlingPause : SLAPause :=
  { pk := 0, ticket := 0, pausedAt := 600000000, resumedAt := some 5400000000 }

theorem straddlingPause_since : PausedSince 0 [straddlingPause] :=
  pausedSince_singleton (by decide) rfl (by decide)

end Kanzan.Tickets

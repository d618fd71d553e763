import Kanzan.Sla.Deadline

/-!
# Deadlines shifted by pauses

A pause that ends moves a deadline by the time it took, as the counting functions measure it.  The
deadline after several pauses, and the one that it stands for: the deadline of each pause's time,
taken from the one before.
-/

namespace Kanzan.Sla

open Support

variable {config : BusinessConfig} {tenant : Tenant}

/-! ## The source's shifts -/

/-- A deadline once `_shift_sla_deadlines` has moved it for a pause. -/
def shifted (tenant : Tenant) (due : Instant) (pause : Instant × Instant) : Instant :=
  let minutes := elapsedBusinessMinutes pause.1 pause.2 tenant
  if minutes ≤ 0 then due else addBusinessMinutes due minutes tenant

/-- The deadline that `initialize_sla` sets at an instant, after some pauses. -/
def dueAfter (tenant : Tenant) (start : Instant) (minutes : ℕ) (pauses : List (Instant × Instant)) :
    Instant :=
  pauses.foldl (shifted tenant) (addBusinessMinutes start minutes tenant)

theorem dueAfter_concat (start : Instant) (minutes : ℕ) (pauses : List (Instant × Instant))
    (pause : Instant × Instant) :
    dueAfter tenant start minutes (pauses ++ [pause]) =
      shifted tenant (dueAfter tenant start minutes pauses) pause := by
  rw [dueAfter, List.foldl_append]
  rfl

/-! ## What they stand for -/

/-- What the time of a span is taken to be: open time, or clock time without business hours or
where `_resolve_tenant` finds no settings. -/
def measuredMicros (tenant : Tenant) (span : Instant × Instant) : ℤ :=
  match (if tenant.settings.isSome then getBusinessConfig tenant else none) with
  | none => span.2 - span.1
  | some config => ticks config.Open (config.tz.wall span.1) (config.tz.wall span.2)

def pausedMicros (tenant : Tenant) (pause : Instant × Instant) : ℤ :=
  max 0 (measuredMicros tenant pause)

/-- An instant is the deadline of some open times, one after the other. -/
inductive Extended (config : BusinessConfig) : Instant → List ℤ → Instant → Prop
  | nil (start : Instant) : Extended config start [] start
  | cons {start due : Instant} {micros overdue : ℤ} {times : List ℤ} {reading : LocalTime}
      (deadline : Deadline config (config.tz.fromUtc start) micros reading overdue)
      (rest : Extended config (config.tz.toUtc reading) times due) :
      Extended config start (micros :: times) due

theorem Extended.unique {start due other : Instant} {times : List ℤ}
    (first : Extended config start times due) (second : Extended config start times other) :
    due = other := by
  induction first with
  | nil =>
    cases second with
    | nil => rfl
  | cons deadline rest ih =>
    cases second with
    | cons again others =>
      obtain ⟨rfl, -⟩ := deadline.unique again
      exact ih others

theorem elapsedBusinessMinutes_eq (span : Instant × Instant) :
    elapsedBusinessMinutes span.1 span.2 tenant = totalMinutes (measuredMicros tenant span) := by
  rw [elapsedBusinessMinutes, resolveTenant, measuredMicros]
  cases hsettings : tenant.settings.isSome with
  | false => rfl
  | true =>
    simp only [if_true]
    cases hconfig : getBusinessConfig tenant with
    | none => rfl
    | some config => exact countBusinessMinutes_eq span.1 span.2

theorem shifted_eq (due : Instant) (pause : Instant × Instant) :
    shifted tenant due pause =
      if measuredMicros tenant pause ≤ 0 then due
      else addBusinessMinutes due (totalMinutes (measuredMicros tenant pause)) tenant := by
  simp only [shifted, elapsedBusinessMinutes_eq, totalMinutes_nonpos]

theorem shifted_of_none (hconfig : getBusinessConfig tenant = none) (due : Instant)
    (pause : Instant × Instant) : shifted tenant due pause = due + pausedMicros tenant pause := by
  rw [shifted_eq, pausedMicros, addBusinessMinutes, hconfig]
  split
  · rename_i hnonpos
    rw [max_eq_left hnonpos, add_zero]
  · rename_i hpos
    rw [max_eq_right (not_le.mp hpos).le, timedeltaMinutes_totalMinutes]

theorem shifted_of_some (hconfig : getBusinessConfig tenant = some config) (due : Instant)
    (pause : Instant × Instant) :
    ∃ reading overdue,
      Deadline config (config.tz.fromUtc due) (pausedMicros tenant pause) reading overdue ∧
        shifted tenant due pause = config.tz.toUtc reading := by
  rw [shifted_eq, pausedMicros]
  split
  · rename_i hnonpos
    exact ⟨_, 0, .now (max_eq_left hnonpos), (config.tz.toUtc_fromUtc due).symm⟩
  · rename_i hpos
    rw [max_eq_right (not_le.mp hpos).le]
    obtain ⟨overdue, deadline⟩ :=
      addBusinessMinutesLocal_deadline config due _ (not_le.mp hpos).le
    exact ⟨_, overdue, deadline, by rw [addBusinessMinutes, hconfig]; rfl⟩

theorem dueAfter_of_none (hconfig : getBusinessConfig tenant = none) (start : Instant)
    (minutes : ℕ) (pauses : List (Instant × Instant)) :
    dueAfter tenant start minutes pauses =
      start + minutes * minuteMicros + (pauses.map (pausedMicros tenant)).sum := by
  induction pauses using List.reverseRecOn with
  | nil =>
    rw [dueAfter, List.foldl_nil, addBusinessMinutes, hconfig, natCast_eq_totalMinutes]
    simp only [timedeltaMinutes_totalMinutes, List.map_nil, List.sum_nil, add_zero]
  | append_singleton pauses pause ih =>
    rw [dueAfter_concat, shifted_of_none hconfig, ih]
    simp only [List.map_append, List.map_cons, List.map_nil, List.sum_append, List.sum_singleton,
      add_assoc]

theorem foldl_shifted_extended (hconfig : getBusinessConfig tenant = some config)
    (pauses : List (Instant × Instant)) (start : Instant) :
    Extended config start (pauses.map (pausedMicros tenant))
      (pauses.foldl (shifted tenant) start) := by
  induction pauses generalizing start with
  | nil => exact .nil start
  | cons pause rest ih =>
    obtain ⟨reading, overdue, deadline, hshifted⟩ := shifted_of_some hconfig start pause
    refine .cons deadline ?_
    rw [List.foldl_cons, ← hshifted]
    exact ih _

theorem dueAfter_of_some (hconfig : getBusinessConfig tenant = some config) (start : Instant)
    (minutes : ℕ) (pauses : List (Instant × Instant)) :
    Extended config start (minutes * minuteMicros :: pauses.map (pausedMicros tenant))
      (dueAfter tenant start minutes pauses) := by
  obtain ⟨overdue, deadline⟩ := addBusinessMinutesLocal_deadline config start
    (minutes * minuteMicros) (mul_nonneg (Int.natCast_nonneg _) (by decide))
  refine .cons deadline ?_
  have hadded : addBusinessMinutes start minutes tenant =
      config.tz.toUtc (addBusinessMinutesLocal start (totalMinutes (minutes * minuteMicros))
        config).1 := by
    rw [addBusinessMinutes, hconfig, natCast_eq_totalMinutes]
    rfl
  rw [dueAfter, hadded]
  exact foldl_shifted_extended hconfig pauses _

end Kanzan.Sla

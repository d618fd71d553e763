import Kanzan.Sla.Clock
import Kanzan.Support.Lists

/-!
# Ticket trends

The tickets of a period and of the one before it, by the hour or by the day.  By the hour, the
period is the day on which it begins, whatever it was; by the day, the period before it has as
many days as it has itself, though it may touch one more.
-/

namespace Kanzan.Analytics.Trends

open Sla Support

/-! ## Trends -/

def hourMicros : ℤ := 3600000000

def date (t : ℤ) : ℤ := t / dayMicros

def hour (t : ℤ) : ℤ := t / hourMicros % 24

/-- `replace(hour=0, minute=0, second=0, microsecond=0)`. -/
def midnight (t : ℤ) : ℤ := date t * dayMicros

inductive Mode where
  | hourly
  | daily
  deriving DecidableEq

structure TicketTrends where
  mode : Mode
  current : List ℕ
  previous : List ℕ
  received : ℕ

def within (first last : ℤ) (created : List ℤ) : List ℤ :=
  created.filter fun t => decide (first ≤ t) && decide (t < last)

/-- `Count` for each of the next `n` values of a key. -/
def buckets (key : ℤ → ℤ) (first : ℤ) (n : ℕ) (created : List ℤ) : List ℕ :=
  (List.range n).map fun i : ℕ => created.countP fun t => key t == first + (i : ℤ)

/-- `get_hourly_trends`, for the creation times of the tickets of `base_qs`. -/
def getHourlyTrends (created : List ℤ) (dateFrom dateTo : ℤ) : TicketTrends :=
  if (dateTo - dateFrom) / dayMicros < 1 then
    let dayStart := midnight dateFrom
    let current := buckets hour 0 24 (within dayStart (dayStart + dayMicros) created)
    { mode := .hourly
      current
      previous := buckets hour 0 24 (within (dayStart - dayMicros) dayStart created)
      received := current.sum }
  else
    let prevFrom := dateFrom - (dateTo - dateFrom)
    -- one turn of the loop for each date up to that of `date_to`
    let turns := (date dateTo - date dateFrom + 1).toNat
    let current := buckets date (date dateFrom) turns
      (created.filter fun t => decide (dateFrom ≤ t) && decide (t ≤ dateTo))
    { mode := .daily
      current
      previous := buckets date (date prevFrom) turns (within prevFrom dateFrom created)
      received := current.sum }

/-! ## The periods -/

section Periods

variable (dateFrom dateTo : ℤ)

def isReceived (t : ℤ) : Bool := decide (dateFrom ≤ t) && decide (t ≤ dateTo)

def IsWholeDay : Prop := dateFrom = midnight dateFrom ∧ dateTo = midnight dateFrom + dayMicros - 1

instance : Decidable (IsWholeDay dateFrom dateTo) := inferInstanceAs (Decidable (_ ∧ _))

def isPrevious (t : ℤ) : Bool :=
  if IsWholeDay dateFrom dateTo then decide (dateFrom - dayMicros ≤ t) && decide (t < dateFrom)
  else decide (dateFrom - (dateTo - dateFrom) ≤ t) && decide (t < dateFrom)

/-- The trends have every ticket of the two periods, and no other. -/
structure Conserves (created : List ℤ) (trends : TicketTrends) : Prop where
  sum : trends.received = trends.current.sum
  received : trends.received = created.countP (isReceived dateFrom dateTo)
  previous : trends.previous.sum = created.countP (isPrevious dateFrom dateTo)

/-- As many of the rows meet the first condition alone as the second alone. -/
def SameNumber (created : List ℤ) (first second : ℤ → Bool) : Prop :=
  (created.countP fun t => first t && !second t) = created.countP fun t => second t && !first t

/--
By the hour, as many tickets of the day are out of the period as tickets of the period are after
the day, and likewise for the periods before; by the day, no ticket of the period before is on a
date for which the period itself has none.
-/
def Aligned (created : List ℤ) : Prop :=
  if (dateTo - dateFrom) / dayMicros < 1 then
    SameNumber created (fun t => date t == date dateFrom) (isReceived dateFrom dateTo) ∧
      SameNumber created (fun t => date t == date dateFrom - 1) (isPrevious dateFrom dateTo)
  else
    ∀ t ∈ created, isPrevious dateFrom dateTo t = true →
      date t - date (dateFrom - (dateTo - dateFrom)) ≤ date dateTo - date dateFrom

end Periods

/-! ## The buckets -/

section Laws

variable {created : List ℤ} {dateFrom dateTo : ℤ}

theorem sum_buckets (key : ℤ → ℤ) (first : ℤ) (n : ℕ) (created : List ℤ) :
    (buckets key first n created).sum =
      created.countP fun t => decide (first ≤ key t) && decide (key t < first + n) := by
  induction n with
  | zero =>
    refine (List.countP_eq_zero.mpr fun t _ => ?_).symm
    simp
  | succ n ih =>
    rw [buckets, List.range_succ, List.map_append, List.sum_append, List.map_singleton,
      List.sum_singleton]
    rw [buckets] at ih
    rw [ih]
    refine (countP_eq_add (fun t _ h => ?_) fun t _ => ?_).symm
    · simp only [Bool.and_eq_true, decide_eq_true_eq] at h ⊢
      omega
    · rw [Bool.eq_iff_iff]
      simp
      omega

theorem sameNumber_iff {first second : ℤ → Bool} :
    SameNumber created first second ↔ created.countP first = created.countP second := by
  have hfirst : created.countP first = created.countP (fun t => first t && second t) +
      created.countP fun t => first t && !second t := by
    refine countP_eq_add (fun t _ h => (Bool.and_eq_true_iff.mp h).1) fun t _ => ?_
    cases first t <;> cases second t <;> rfl
  have hsecond : created.countP second = created.countP (fun t => first t && second t) +
      created.countP fun t => second t && !first t := by
    refine countP_eq_add (fun t _ h => (Bool.and_eq_true_iff.mp h).2) fun t _ => ?_
    cases first t <;> cases second t <;> rfl
  unfold SameNumber
  omega

theorem sum_hours (created : List ℤ) : (buckets hour 0 24 created).sum = created.length := by
  rw [sum_buckets, List.countP_eq_length]
  intro t _
  have hnonneg := Int.emod_nonneg (t / hourMicros) (by decide : (24 : ℤ) ≠ 0)
  have hlt := Int.emod_lt_of_pos (t / hourMicros) (by decide : (0 : ℤ) < 24)
  simp only [Bool.and_eq_true, decide_eq_true_eq]
  exact ⟨hnonneg, hlt⟩

theorem length_within_day (first : ℤ) (d : ℤ) (hfirst : first = d * dayMicros) :
    (within first (first + dayMicros) created).length = created.countP fun t => date t == d := by
  rw [within, ← List.countP_eq_length_filter]
  refine List.countP_congr fun t _ => ?_
  subst hfirst
  rw [Bool.and_eq_true, decide_eq_true_eq, decide_eq_true_eq, beq_iff_eq]
  unfold date dayMicros
  omega

theorem conserves_hourly (hhourly : (dateTo - dateFrom) / dayMicros < 1) :
    Conserves dateFrom dateTo created (getHourlyTrends created dateFrom dateTo) ↔
      created.countP (fun t => date t == date dateFrom) =
          created.countP (isReceived dateFrom dateTo) ∧
        created.countP (fun t => date t == date dateFrom - 1) =
          created.countP (isPrevious dateFrom dateTo) := by
  have hcurrent := @length_within_day created (midnight dateFrom) (date dateFrom) rfl
  have hprevious := @length_within_day created (midnight dateFrom - dayMicros) (date dateFrom - 1)
    (by rw [midnight, sub_one_mul])
  rw [sub_add_cancel] at hprevious
  unfold getHourlyTrends
  rw [if_pos hhourly, ← hcurrent, ← hprevious, ← sum_hours, ← sum_hours (within _ (midnight _) _)]
  exact ⟨fun conserves => ⟨conserves.received, conserves.previous⟩, fun h => ⟨rfl, h.1, h.2⟩⟩

/-- By the day, no ticket of the period is lost; one of the period before may be. -/
theorem conserves_daily (hdaily : ¬(dateTo - dateFrom) / dayMicros < 1) :
    Conserves dateFrom dateTo created (getHourlyTrends created dateFrom dateTo) ↔
      ∀ t ∈ created, isPrevious dateFrom dateTo t = true →
        date t - date (dateFrom - (dateTo - dateFrom)) ≤ date dateTo - date dateFrom := by
  have hlong : dateFrom + dayMicros ≤ dateTo := by
    unfold dayMicros at hdaily ⊢
    omega
  have hdate : date dateFrom ≤ date dateTo := by
    unfold date dayMicros at *
    omega
  have hturns : ((date dateTo - date dateFrom + 1).toNat : ℤ) = date dateTo - date dateFrom + 1 :=
    Int.toNat_of_nonneg (by omega)
  have hprevious : created.filter (isPrevious dateFrom dateTo) =
      within (dateFrom - (dateTo - dateFrom)) dateFrom created := by
    refine List.filter_congr fun t _ => ?_
    unfold isPrevious
    refine if_neg fun hwhole => ?_
    have hfrom := hwhole.1
    have hto := hwhole.2
    unfold dayMicros at *
    omega
  have hreceived : (buckets date (date dateFrom) (date dateTo - date dateFrom + 1).toNat
      (created.filter (isReceived dateFrom dateTo))).sum =
        created.countP (isReceived dateFrom dateTo) := by
    rw [sum_buckets, hturns, List.countP_eq_length_filter (p := isReceived dateFrom dateTo),
      List.countP_eq_length]
    intro t hmem
    have ht := (List.mem_filter.mp hmem).2
    simp only [isReceived, Bool.and_eq_true, decide_eq_true_eq] at ht ⊢
    unfold date dayMicros
    omega
  unfold getHourlyTrends
  rw [if_neg hdaily]
  have hsum : (buckets date (date (dateFrom - (dateTo - dateFrom)))
      (date dateTo - date dateFrom + 1).toNat
      (within (dateFrom - (dateTo - dateFrom)) dateFrom created)).sum =
        created.countP (isPrevious dateFrom dateTo) ↔
      ∀ t ∈ created, isPrevious dateFrom dateTo t = true →
        date t - date (dateFrom - (dateTo - dateFrom)) ≤ date dateTo - date dateFrom := by
    rw [sum_buckets, hturns, List.countP_eq_length_filter (p := isPrevious dateFrom dateTo),
      ← hprevious, List.countP_eq_length]
    simp only [List.mem_filter, Bool.and_eq_true, decide_eq_true_eq, and_imp]
    refine forall_congr' fun t => imp_congr_right fun hmem => imp_congr_right fun ht => ?_
    have hwithin : t ∈ within (dateFrom - (dateTo - dateFrom)) dateFrom created :=
      hprevious ▸ List.mem_filter.mpr ⟨hmem, ht⟩
    have hfirst := (List.mem_filter.mp hwithin).2
    rw [Bool.and_eq_true, decide_eq_true_eq] at hfirst
    unfold date dayMicros
    omega
  exact ⟨fun conserves => hsum.mp conserves.previous, fun h => ⟨rfl, hreceived, hsum.mpr h⟩⟩

end Laws

/-- The trends have the tickets of both periods if and only if the periods are aligned. -/
theorem getHourlyTrends_conserves_iff (created : List ℤ) (dateFrom dateTo : ℤ) :
    Conserves dateFrom dateTo created (getHourlyTrends created dateFrom dateTo) ↔
      Aligned dateFrom dateTo created := by
  unfold Aligned
  split
  · rename_i hhourly
    rw [conserves_hourly hhourly, sameNumber_iff, sameNumber_iff]
  · rename_i hdaily
    exact conserves_daily hdaily

/-- From ten o'clock till eleven in the evening of the next day: a ticket of the first morning is
in the period before, whose third date has no bucket. -/
theorem not_getHourlyTrends_conserves :
    ¬ ∀ (created : List ℤ) (dateFrom dateTo : ℤ), dateFrom ≤ dateTo →
      Conserves dateFrom dateTo created (getHourlyTrends created dateFrom dateTo) := by
  intro hall
  have conserves := hall [9 * hourMicros] (10 * hourMicros) (47 * hourMicros) (by decide)
  exact absurd conserves.previous (by decide)

end Kanzan.Analytics.Trends

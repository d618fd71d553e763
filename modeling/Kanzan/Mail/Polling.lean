import Kanzan.Mail.Polls

/-!
# What polls hand over

The watermark moves past a message only when it has been handed over, except where a poll anchors a
mailbox with the watermark 0: that is the mailbox's first poll, or one after it was still empty.
-/

namespace Kanzan.Mail

open Support

/-- New mail is handed over, never again once it is settled, and old mail never. -/
structure Delivered (watched : Watched) : Prop where
  due : ∀ uid ∈ watched.history.due, uid ∈ watched.history.handed
  once : watched.history.repeated = []
  present : ∀ uid ∈ watched.history.present, uid ∉ watched.history.handed

def AnchorsBelow (watched : Watched) (event : PollEvent) : Prop :=
  ∀ uid ∈ watched.history.late,
    uid < watched.poller.anchorsAt event → uid ∈ watched.history.handed

instance (watched : Watched) (event : PollEvent) : Decidable (AnchorsBelow watched event) :=
  inferInstanceAs (Decidable (∀ uid ∈ watched.history.late, _ → _))

variable {event : PollEvent}

section Laws

variable {watched : Watched} {uid : ℕ}

/-- The watermark moves where a mailbox is anchored, and past a message that was handed over. -/
theorem watermark_step (standing : Standing watched) (event : PollEvent) :
    watermark (watched.poller.advance event).row = watermark watched.poller.row ∨
      watermark watched.poller.row = 0 ∧
        watermark (watched.poller.advance event).row < watched.poller.anchorsAt event ∨
      ∃ lastUid uid rest ingested, watched.poller.phase = .handing lastUid uid rest ingested ∧
        lastUid < uid ∧ watermark (watched.poller.advance event).row = uid := by
  obtain ⟨⟨mailbox, row, phase, returned⟩, history⟩ := watched
  obtain ⟨base, holds⟩ := standing
  change Base mailbox row history at base
  change phase.Holds mailbox row history at holds
  cases event with
  | load =>
    refine .inl ?_
    cases phase with
    | selected uidValidity uidNext =>
      obtain ⟨rfl, -, -⟩ := holds
      exact base.loadState.2
    | _ => rfl
  | anchor =>
    cases phase with
    | loaded lastUid uidNext =>
      by_cases hzero : lastUid = 0
      · subst hzero
        cases uidNext with
        | none => exact .inl rfl
        | some next =>
          by_cases hone : 1 < next
          · refine .inr (.inl ⟨holds.1.watermark_eq, ?_⟩)
            obtain ⟨state, rfl, -⟩ := holds.1.exists_row
            have hmark : watermark (some { state with lastUid := next - 1 }) = next - 1 := rfl
            simp only [Poller.advance, if_pos, hone, Poller.saveUid, Poller.anchorsAt,
              Option.map_some, hmark]
            exact Nat.sub_one_lt (Nat.ne_of_gt (Nat.zero_lt_of_lt hone))
          · exact .inl (by simp [Poller.advance, hone])
      · exact .inl (by simp [Poller.advance, hzero])
    | _ => exact .inl rfl
  | save =>
    cases phase with
    | handing lastUid uid rest ingested =>
      have habove := holds.2.1.above uid List.mem_cons_self
      obtain ⟨state, rfl, -⟩ := holds.1.exists_row
      refine .inr (.inr ⟨lastUid, uid, rest, ingested, rfl, habove, ?_⟩)
      simp only [Poller.advance, if_pos habove, Poller.saveUid]
      rfl
    | _ => exact .inl rfl
  | select validityReadable uidNextReadable =>
    refine .inl ?_
    cases phase with
    | idle => cases validityReadable <;> rfl
    | _ => rfl
  | search rawUids =>
    refine .inl ?_
    simp only [Poller.advance]
    split
    · split
      · split <;> rfl
      · rfl
    · rfl
  | ingest stored => exact .inl (by simp only [Poller.advance]; split <;> rfl)
  | finish => exact .inl (by simp only [Poller.advance]; split <;> rfl)
  | _ => exact .inl rfl

theorem opening_le_of_completes (standing : Standing watched)
    (hcompletes : watched.poller.completes event = true) :
    ∀ uid ∈ watched.history.opening, uid ≤ watermark watched.poller.row := by
  obtain ⟨⟨mailbox, row, phase, returned⟩, history⟩ := watched
  obtain ⟨base, holds⟩ := standing
  change Base mailbox row history at base
  change phase.Holds mailbox row history at holds
  intro uid hmem
  cases event with
  | search rawUids =>
    cases phase with
    | anchored lastUid =>
      have hmark : watermark row = lastUid := holds.1.watermark_eq
      simp only [Poller.completes, Bool.and_eq_true, List.isEmpty_iff] at hcompletes
      obtain ⟨hperm, hempty⟩ := hcompletes
      refine Nat.le_of_not_lt fun hlt => ?_
      have hnew := (mem_newUids hperm).mpr ⟨base.late (base.opening hmem), hmark ▸ hlt⟩
      rw [hempty] at hnew
      cases hnew
    | _ => cases hcompletes
  | finish =>
    cases phase with
    | batch lastUid todo ingested =>
      have hmark : watermark row = lastUid := holds.1.watermark_eq
      cases todo with
      | nil =>
        refine Nat.le_of_not_lt fun hlt => ?_
        cases holds.2.opening uid hmem (hmark ▸ hlt)
      | cons next rest => cases hcompletes
    | _ => cases hcompletes
  | _ => cases hcompletes

/-- Below the watermark, and in what is due, everything new has been handed over. -/
structure Kept (watched : Watched) : Prop where
  settled : ∀ uid ∈ watched.history.late,
    uid ≤ watermark watched.poller.row → uid ∈ watched.history.handed
  due : ∀ uid ∈ watched.history.due, uid ∈ watched.history.handed

theorem kept_step (standing : Standing watched) (kept : Kept watched)
    (admits : AnchorsBelow watched event) : Kept (watched.step event) := by
  have hgrows : ∀ uid ∈ watched.history.handed, uid ∈ (watched.step event).history.handed :=
    fun uid hmem => List.mem_append_left _ hmem
  have hsettled : ∀ uid ∈ watched.history.late,
      uid ≤ watermark (watched.poller.advance event).row → uid ∈ watched.history.handed := by
    intro uid hmem hle
    rcases watermark_step standing event with hsame | ⟨hzero, hlt⟩ |
      ⟨lastUid, next, rest, ingested, hphase, habove, hmark⟩
    · exact kept.settled uid hmem (hsame ▸ hle)
    · exact admits uid hmem (Nat.lt_of_le_of_lt hle hlt)
    · have holds := standing.phase
      rw [hphase] at holds
      obtain ⟨stored, ahead, hhanded⟩ := holds
      rw [hmark] at hle
      by_cases hbelow : uid ≤ lastUid
      · exact kept.settled uid hmem (stored.watermark_eq ▸ hbelow)
      · rcases ahead.late uid hmem (Nat.lt_of_not_le hbelow) with hlisted | hbeyond
        · rcases List.mem_cons.mp hlisted with rfl | hrest
          · exact hhanded
          · have hlt := (List.pairwise_cons.mp ahead.sorted).1 uid hrest
            exact absurd hle (Nat.not_le_of_lt hlt)
        · have hlt := hbeyond next List.mem_cons_self
          exact absurd hle (Nat.not_le_of_lt hlt)
  constructor
  · intro uid hmem hle
    refine hgrows uid ?_
    rcases List.mem_append.mp hmem with hold | hnew
    · exact hsettled uid hold hle
    · -- what has just arrived is above every watermark
      cases event with
      | arrive gap skip =>
        have hlt := Nat.lt_add_right gap standing.base.below
        have hnew : uid = watched.poller.mailbox.nextUid gap := by
          cases hcompleted : watched.history.completed with
          | false => simp [hcompleted] at hnew
          | true => simpa [hcompleted, Poller.receives] using hnew
        rw [hnew] at hle
        exact absurd hle (Nat.not_le_of_lt hlt)
      | _ => simp [Poller.receives] at hnew
  · intro uid hmem
    refine hgrows uid ?_
    cases hcompletes : watched.poller.completes event with
    | true =>
      have hopening : uid ∈ watched.history.opening := by
        simpa [Watched.step, Watched.note, hcompletes] using hmem
      exact kept.settled uid (standing.base.opening hopening)
        (opening_le_of_completes standing hcompletes uid hopening)
    | false =>
      refine kept.due uid ?_
      simpa [Watched.step, Watched.note, hcompletes] using hmem

end Laws

/--
In every run in which no poll anchors above new mail, new mail is handed over by the end of a poll
that begins after it, nothing is handed over again once the watermark has passed it, and old mail
never is.
-/
theorem always_delivered (mailbox : Mailbox) (events : List PollEvent)
    (anchored : Every Watched.step AnchorsBelow (Watched.opening mailbox) events) :
    Always Watched.step Delivered (Watched.opening mailbox) events := by
  have hkept : Kept (Watched.opening mailbox) := ⟨nofun, nofun⟩
  refine always_of_invariant (fun watched : Watched => Standing watched ∧ Kept watched)
    ?_ ?_ ⟨standing_opening mailbox, hkept⟩ events anchored
  · rintro watched ⟨standing, kept⟩
    exact ⟨kept.due, standing.base.once, standing.base.unseen⟩
  · rintro watched event ⟨standing, kept⟩ admits
    exact ⟨standing_step standing event, kept_step standing kept admits⟩

/-- One undisturbed poll, up to the answer of the server. -/
def pollUpTo (rawUids : List ℕ) : List PollEvent :=
  [.select true true, .load, .anchor, .search rawUids]

/-- A mailbox that is anchored, and a message that is handed over. -/
theorem delivered_after_arrival :
    Always Watched.step Delivered (Watched.opening (Mailbox.fresh 7))
      ([.arrive 0 0] ++ pollUpTo [1] ++ [.arrive 3 2] ++ pollUpTo [5] ++
        [.ingest true, .save, .finish]) :=
  always_delivered (Mailbox.fresh 7) _ (by decide)

/-- The first message of a mailbox that was empty at the first poll is passed over. -/
theorem undelivered_after_empty_poll :
    ¬ Always Watched.step Delivered (Watched.opening (Mailbox.fresh 7))
      (pollUpTo [] ++ [.arrive 0 0] ++ pollUpTo [1]) := by
  intro always
  have hdue := always.finish.due 1 (by decide)
  exact absurd hdue (by decide)

end Kanzan.Mail

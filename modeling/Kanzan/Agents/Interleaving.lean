import Kanzan.Agents.Presence
import Kanzan.Support.Processes

/-!
# Presence under interleaving

Heartbeats of several tabs, ticks of the reaper and manual changes as processes over one row: a turn
reads the row or writes it.  Beside the row stand the manual choices saved so far and the heartbeats
stamped so far.
-/

namespace Kanzan.Agents

open Support
open Sla

/-- The row, the last reading of the clock, and what was saved so far. -/
structure Board where
  row : Option PresenceRow
  clock : Instant
  choices : ℕ := 0
  chosen : Option AgentStatus := none
  stamps : List Instant

/-- Where a process stands; a writer remembers what it has read, and how much was saved then. -/
inductive Writer where
  | idle
  | heartbeat (now : Instant) (old : AgentStatus) (choices : ℕ)
  | reaper (choices stamped : ℕ)
  | manual (payload : StatusPayload) (loaded : Option ℕ)

/-- What an idle process begins. -/
inductive Move where
  | heartbeat
  | tick
  | setStatus (payload : StatusPayload)
  | myStatus (payload : StatusPayload)

variable {writer : Writer}

namespace Board

variable (site : PresenceSite) (board : Board) (now : Instant)

/-- The reading half; `touch_presence` and `my-status` create a missing row. -/
def read : Move → Board × Writer
  | .heartbeat =>
    match board.row with
    | none =>
      ({ board with
          row := some (site.seenFirst now)
          stamps := now :: board.stamps }, .idle)
    | some row => (board, .heartbeat now row.status board.choices)
  | .tick =>
    if board.row.any (site.isStale now) then
      (board, .reaper board.choices board.stamps.length)
    else (board, .idle)
  | .setStatus payload =>
    match board.row with
    | none => (board, .idle)
    | some row => (board, .manual payload row.customStatus)
  | .myStatus payload =>
    let row := PresenceSite.myStatus now board.row
    ({ board with row := some row }, .manual payload row.customStatus)

def write : Writer → Board
  | .idle => board
  | .heartbeat stampedAt old _ =>
    { board with
      row := board.row.map (PresenceSite.stamp stampedAt (site.promoted old))
      stamps := stampedAt :: board.stamps }
  | .reaper _ _ => { board with row := board.row.map (PresenceSite.reap now) }
  | .manual payload loaded =>
    if site.accepts payload then
      { board with
        row := board.row.map (PresenceSite.choose now payload loaded)
        choices := board.choices + (if payload.status.isSome then 1 else 0)
        chosen := payload.status.or board.chosen }
    else board

def advance (reading : Instant) : Board := { board with clock := max board.clock reading }

def act (_process : ℕ) (board : Board) (writer : Writer) (event : Move × Instant) :
    Board × Writer :=
  let board := board.advance event.2
  match writer with
  | .idle => board.read site board.clock event.1
  | writer => (board.write site board.clock writer, .idle)

/-- The agent before the first turn, with the heartbeat that the row remembers. -/
def start (row : Option PresenceRow) : Board where
  row := row
  clock := now
  stamps := (row.bind fun row => row.lastSeen).toList

/-! ## The property -/

/--
The row shows a manual choice other than `online`, saved after `choices` of them, and a write puts
another status there.
-/
def Overwrites (choices : ℕ) (status : AgentStatus) : Prop :=
  ∃ row, board.row = some row ∧ choices < board.choices ∧ board.chosen = some row.status ∧
    row.status ≠ .online ∧ status ≠ row.status

/-- A write moves the agent to `away`, and a heartbeat within the TTL was stamped. -/
def ReapsFresh : Prop :=
  ∃ row, board.row = some row ∧ row.status ≠ .away ∧
    ∃ stamped ∈ board.stamps, now - stamped ≤ site.ttl

def Respectful : Writer → Prop
  | .heartbeat _ old choices => ¬board.Overwrites choices (site.promoted old)
  | .reaper choices _ => ¬board.Overwrites choices .away ∧ ¬board.ReapsFresh site now
  | _ => True

/-! ## The condition -/

/-- Since then no manual choice was saved, or the last one was `online` or is what is written. -/
def Undisturbed (choices : ℕ) (status : AgentStatus) : Prop :=
  choices = board.choices ∨ board.chosen = some .online ∨ board.chosen = some status

def Newest : Prop :=
  (board.row.all fun row =>
    board.stamps.all fun stamped => row.lastSeen.any (stamped ≤ ·)) = true

/--
No manual choice comes between the two halves of a heartbeat or of the reaper, and between those of
the reaper no heartbeat either.
-/
def Timely : Writer → Prop
  | .heartbeat _ old choices => board.Undisturbed choices (site.promoted old)
  | .reaper choices stamped =>
    board.Undisturbed choices .away ∧ board.stamps.length = stamped ∧ board.Newest
  | _ => True

instance (writer : Writer) : Decidable (board.Timely site writer) :=
  match writer with
  | .idle => isTrue trivial
  | .heartbeat _ old choices =>
    inferInstanceAs (Decidable (choices = board.choices ∨ board.chosen = some .online ∨
      board.chosen = some (site.promoted old)))
  | .reaper choices stamped =>
    inferInstanceAs (Decidable ((choices = board.choices ∨ board.chosen = some .online ∨
      board.chosen = some .away) ∧ board.stamps.length = stamped ∧ (board.row.all fun row =>
        board.stamps.all fun stamped => row.lastSeen.any (stamped ≤ ·)) = true))
  | .manual _ _ => isTrue trivial

/-! ## What a turn leaves -/

/-- How the board of a turn follows the one before it. -/
structure Later (before after : Board) : Prop where
  clock : before.clock ≤ after.clock
  choices : before.choices ≤ after.choices
  chosen : after.choices = before.choices → after.chosen = before.chosen
  stamps : before.stamps.length ≤ after.stamps.length
  lastSeen : after.stamps.length = before.stamps.length → ∀ row, after.row = some row →
    row.lastSeen = none ∨ ∃ old, before.row = some old ∧ old.lastSeen = row.lastSeen
  row : before.row.isSome = true → after.row.isSome = true

section Laws

variable {site : PresenceSite} {before after board : Board} {now : Instant}

theorem later_clock (hle : before.clock ≤ now) : Later before { before with clock := now } where
  clock := hle
  choices := Nat.le_refl _
  chosen _ := rfl
  stamps := Nat.le_refl _
  lastSeen _ row hrow := Or.inr ⟨row, hrow, rfl⟩
  row hsome := hsome

theorem Later.trans {last : Board} (first : Later before after) (second : Later after last) :
    Later before last where
  clock := Int.le_trans first.clock second.clock
  choices := Nat.le_trans first.choices second.choices
  chosen heq := by
    have hfirst := first.choices
    have hsecond := second.choices
    rw [second.chosen (by omega), first.chosen (by omega)]
  stamps := Nat.le_trans first.stamps second.stamps
  lastSeen heq row hrow := by
    have hfirst := first.stamps
    have hsecond := second.stamps
    rcases second.lastSeen (by omega) row hrow with hnone | ⟨middle, hmiddle, hsame⟩
    · exact Or.inl hnone
    · rw [← hsame]
      exact first.lastSeen (by omega) middle hmiddle
  row hsome := second.row (first.row hsome)

theorem later_read (move : Move) : Later board (board.read site now move).1 := by
  cases move with
  | heartbeat =>
    rw [read]
    cases hrow : board.row with
    | some row => exact later_clock (Int.le_refl _)
    | none =>
      constructor
      · exact Int.le_refl _
      · exact Nat.le_refl _
      · exact fun _ => rfl
      · exact Nat.le_succ _
      · exact fun heq => absurd heq (Nat.succ_ne_self _)
      · exact fun _ => rfl
  | tick =>
    rw [read]
    split
    · exact later_clock (Int.le_refl _)
    · exact later_clock (Int.le_refl _)
  | setStatus payload =>
    rw [read]
    cases hrow : board.row with
    | none => exact later_clock (Int.le_refl _)
    | some row => exact later_clock (Int.le_refl _)
  | myStatus payload =>
    constructor
    · exact Int.le_refl _
    · exact Nat.le_refl _
    · exact fun _ => rfl
    · exact Nat.le_refl _
    · intro _ row hrow
      obtain rfl := Option.some.inj hrow
      cases hold : board.row with
      | none => exact Or.inl rfl
      | some old => exact Or.inr ⟨old, rfl, rfl⟩
    · exact fun _ => rfl

variable (site now) in
theorem later_write (writer : Writer) : Later board (board.write site now writer) := by
  cases writer with
  | idle => exact later_clock (Int.le_refl _)
  | heartbeat stampedAt old choices =>
    constructor
    · exact Int.le_refl _
    · exact Nat.le_refl _
    · exact fun _ => rfl
    · exact Nat.le_succ _
    · exact fun heq => absurd heq (Nat.succ_ne_self _)
    · exact fun hsome => Option.isSome_map.trans hsome
  | reaper choices stamped =>
    constructor
    · exact Int.le_refl _
    · exact Nat.le_refl _
    · exact fun _ => rfl
    · exact Nat.le_refl _
    · intro _ row hrow
      obtain ⟨old, hold, rfl⟩ := Option.map_eq_some_iff.mp hrow
      exact Or.inr ⟨old, hold, rfl⟩
    · exact fun hsome => Option.isSome_map.trans hsome
  | manual payload loaded =>
    rw [write]
    split
    · constructor
      · exact Int.le_refl _
      · exact Nat.le_add_right ..
      · cases hstatus : payload.status with
        | none => exact fun _ => rfl
        | some status => exact fun heq => absurd heq (Nat.succ_ne_self _)
      · exact Nat.le_refl _
      · intro _ row hrow
        obtain ⟨old, hold, rfl⟩ := Option.map_eq_some_iff.mp hrow
        exact Or.inr ⟨old, hold, rfl⟩
      · exact fun hsome => Option.isSome_map.trans hsome
    · exact later_clock (Int.le_refl _)

theorem later_act (process : ℕ) (writer : Writer) (event : Move × Instant) :
    Later board (act site process board writer event).1 := by
  have hclock : Later board (board.advance event.2) := later_clock (Int.le_max_left ..)
  have hwrite := hclock.trans (later_write site (board.advance event.2).clock writer)
  cases writer with
  | idle => exact hclock.trans (later_read event.1)
  | heartbeat stampedAt old choices => exact hwrite
  | reaper choices stamped => exact hwrite
  | manual payload loaded => exact hwrite

end Laws

/-! ## The invariant -/

/-- A manual `away` or `busy` is still shown. -/
def Kept (board : Board) : Prop :=
  ∀ status, board.chosen = some status → status = .away ∨ status = .busy →
    ∃ row, board.row = some row ∧ row.status = status

/-- What a process has read is still so while nothing was saved since. -/
def Remembers (site : PresenceSite) (board : Board) : Writer → Prop
  | .idle => True
  | .heartbeat _ old choices =>
    choices ≤ board.choices ∧ (choices = board.choices → ∀ status,
      board.chosen = some status → status = .away ∨ status = .busy → old = status)
  | .reaper choices stamped =>
    choices ≤ board.choices ∧ (choices = board.choices → ∀ status,
      board.chosen = some status → ¬(status = .away ∨ status = .busy)) ∧
    stamped ≤ board.stamps.length ∧ (stamped = board.stamps.length → ∀ row,
      board.row = some row → row.lastSeen.all (· < board.clock - site.ttl) = true)
  | .manual _ _ => board.row.isSome = true

section Invariant

variable {site : PresenceSite} {board after : Board} {now : Instant}

/-- What others save does not make a memory wrong, only old. -/
theorem remembers_of_later (remembers : board.Remembers site writer) (later : Later board after) :
    after.Remembers site writer := by
  have hchoices := later.choices
  have hstamps := later.stamps
  cases writer with
  | idle => trivial
  | heartbeat stampedAt old choices =>
    obtain ⟨hle, hold⟩ := remembers
    refine ⟨Nat.le_trans hle hchoices, fun heq status hchosen => ?_⟩
    have hsame : after.choices = board.choices := by omega
    rw [later.chosen hsame] at hchosen
    exact hold (by omega) status hchosen
  | reaper choices stamped =>
    obtain ⟨hle, hquiet, hstamped, hstale⟩ := remembers
    refine ⟨Nat.le_trans hle hchoices, fun heq status hchosen => ?_,
      Nat.le_trans hstamped hstamps, fun heq row hrow => ?_⟩
    · have hsame : after.choices = board.choices := by omega
      rw [later.chosen hsame] at hchosen
      exact hquiet (by omega) status hchosen
    · have hsame : after.stamps.length = board.stamps.length := by omega
      rcases later.lastSeen hsame row hrow with hnone | ⟨old, hold, hseen⟩
      · rw [hnone]
        rfl
      · rw [← hseen, Option.all_eq_true]
        intro seen hseen
        have heq' : stamped = board.stamps.length := by omega
        have hbefore := (Option.all_eq_true ..).mp (hstale heq' old hold) seen hseen
        rw [decide_eq_true_eq] at hbefore ⊢
        exact Int.lt_of_lt_of_le hbefore (Int.sub_le_sub_right later.clock _)
  | manual payload loaded => exact later.row remembers

theorem remembers_read (kept : board.Kept) (move : Move) :
    (board.read site board.clock move).1.Remembers site (board.read site board.clock move).2 := by
  cases move with
  | heartbeat =>
    rw [read]
    cases hrow : board.row with
    | none => trivial
    | some row =>
      refine ⟨Nat.le_refl _, fun _ status hchosen hstatus => ?_⟩
      obtain ⟨shown, hshown, rfl⟩ := kept status hchosen hstatus
      rw [Option.some.inj (hrow.symm.trans hshown)]
  | tick =>
    rw [read]
    split
    · rename_i hstale
      obtain ⟨row, hrow, hfound⟩ := (Option.any_eq_true ..).mp hstale
      rw [PresenceSite.isStale, Bool.and_eq_true, decide_eq_true_eq] at hfound
      obtain ⟨honline, hold⟩ := hfound
      refine ⟨Nat.le_refl _, fun _ status hchosen hstatus => ?_, Nat.le_refl _,
        fun _ found hrow' => ?_⟩
      · obtain ⟨shown, hshown, rfl⟩ := kept status hchosen hstatus
        rw [← Option.some.inj (hrow.symm.trans hshown), honline] at hstatus
        rcases hstatus with hstatus | hstatus
        · cases hstatus
        · cases hstatus
      · rw [← Option.some.inj (hrow.symm.trans hrow')]
        exact hold
    · trivial
  | setStatus payload =>
    rw [read]
    cases hrow : board.row with
    | none => trivial
    | some row =>
      rw [Remembers, hrow]
      rfl
  | myStatus payload => exact rfl

theorem kept_read (kept : board.Kept) (move : Move) : (board.read site now move).1.Kept := by
  cases move with
  | heartbeat =>
    rw [read]
    cases hrow : board.row with
    | some row => exact kept
    | none =>
      intro status hchosen hstatus
      obtain ⟨shown, hshown, -⟩ := kept status hchosen hstatus
      cases hrow.symm.trans hshown
  | tick =>
    rw [read]
    split
    · exact kept
    · exact kept
  | setStatus payload =>
    rw [read]
    cases hrow : board.row with
    | none => exact kept
    | some row => exact kept
  | myStatus payload =>
    intro status hchosen hstatus
    obtain ⟨shown, hshown, hsame⟩ := kept status hchosen hstatus
    refine ⟨shown, ?_, hsame⟩
    simp [read, PresenceSite.myStatus, hshown]

/-- A timely write keeps a manual `away` or `busy`. -/
theorem kept_write (kept : board.Kept) (remembers : board.Remembers site writer)
    (timely : board.Timely site writer) : (board.write site now writer).Kept := by
  intro status hchosen hstatus
  cases writer with
  | idle => exact kept status hchosen hstatus
  | heartbeat stampedAt old choices =>
    obtain ⟨shown, hshown, -⟩ := kept status hchosen hstatus
    refine ⟨_, congrArg (Option.map _) hshown, ?_⟩
    rcases timely with hsame | honline | hwrites
    · have hold := remembers.2 hsame status hchosen hstatus
      have hne : old ≠ .offline := by
        rcases hstatus with rfl | rfl
        · rw [hold]; nofun
        · rw [hold]; nofun
      exact (promoted_of_ne hne).trans hold
    · rw [← Option.some.inj (honline.symm.trans hchosen)] at hstatus
      rcases hstatus with hstatus | hstatus
      · cases hstatus
      · cases hstatus
    · exact Option.some.inj (hwrites.symm.trans hchosen)
  | reaper choices stamped =>
    obtain ⟨shown, hshown, -⟩ := kept status hchosen hstatus
    refine ⟨_, congrArg (Option.map _) hshown, ?_⟩
    rcases timely.1 with hsame | honline | hwrites
    · exact absurd hstatus (remembers.2.1 hsame status hchosen)
    · rw [← Option.some.inj (honline.symm.trans hchosen)] at hstatus
      rcases hstatus with hstatus | hstatus
      · cases hstatus
      · cases hstatus
    · exact Option.some.inj (hwrites.symm.trans hchosen)
  | manual payload loaded =>
    rw [write] at hchosen ⊢
    split at hchosen
    · rename_i haccepts
      rw [if_pos haccepts]
      obtain ⟨row, hrow⟩ := Option.isSome_iff_exists.mp remembers
      refine ⟨_, congrArg (Option.map _) hrow, ?_⟩
      cases hpayload : payload.status with
      | some picked =>
        rw [hpayload] at hchosen
        simp only [PresenceSite.choose, hpayload]
        exact Option.some.inj hchosen
      | none =>
        rw [hpayload] at hchosen
        obtain ⟨shown, hshown, hsame⟩ := kept status hchosen hstatus
        simp only [PresenceSite.choose, hpayload, Option.getD_none]
        rw [Option.some.inj (hrow.symm.trans hshown), hsame]
    · rename_i hrejects
      rw [if_neg hrejects]
      exact kept status hchosen hstatus

theorem respectful_of_timely (remembers : board.Remembers site writer)
    (timely : board.Timely site writer) : board.Respectful site board.clock writer := by
  have hquiet : ∀ choices status, board.Undisturbed choices status →
      ¬board.Overwrites choices status := by
    rintro choices status (hsame | honline | hwrites) ⟨row, hrow, hlt, hchosen, hne, hother⟩
    · omega
    · exact hne (Option.some.inj (hchosen.symm.trans honline))
    · exact hother (Option.some.inj (hwrites.symm.trans hchosen))
  cases writer with
  | idle => trivial
  | heartbeat stampedAt old choices => exact hquiet _ _ timely
  | reaper choices stamped =>
    refine ⟨hquiet _ _ timely.1, ?_⟩
    rintro ⟨row, hrow, hmoved, stampedAt, hmem, hfresh⟩
    have hstale := remembers.2.2.2 timely.2.1.symm row hrow
    have hall := (Option.all_eq_true ..).mp timely.2.2 row hrow
    have hnewest := List.all_eq_true.mp hall stampedAt hmem
    cases hseen : row.lastSeen with
    | none =>
      rw [hseen] at hnewest
      cases hnewest
    | some seen =>
      rw [hseen, Option.any_some, decide_eq_true_eq] at hnewest
      rw [hseen, Option.all_some, decide_eq_true_eq] at hstale
      have hcutoff : board.clock - site.ttl ≤ stampedAt := Int.sub_le_of_sub_le hfresh
      exact absurd (Int.lt_of_lt_of_le hstale (Int.le_trans hcutoff hnewest)) (Int.lt_irrefl _)
  | manual payload loaded => trivial

end Invariant

/-! ## Runs -/

section Runs

variable (site : PresenceSite)

def Admits (world : World Board Writer) (event : ℕ × Move × Instant) : Prop :=
  (world.shared.advance event.2.2).Timely site (world.locals event.1)

instance (world : World Board Writer) (event : ℕ × Move × Instant) :
    Decidable (Admits site world event) :=
  inferInstanceAs (Decidable (Timely ..))

def Respects (world : World Board Writer) (event : ℕ × Move × Instant) : Prop :=
  (world.shared.advance event.2.2).Respectful site (world.shared.advance event.2.2).clock
    (world.locals event.1)

def opening (row : Option PresenceRow) (clock : Instant) : World Board Writer where
  shared := start clock row
  locals _ := .idle

variable {site}

theorem keeps_advance {world : World Board Writer}
    (keeps : World.Keeps Kept (fun _ board writer => board.Remembers site writer) world)
    (process : ℕ) (reading : Instant) : (world.shared.advance reading).Kept ∧
      (world.shared.advance reading).Remembers site (world.locals process) :=
  ⟨keeps.shared, remembers_of_later (keeps.locals process) (later_clock (Int.le_max_left ..))⟩

theorem sound_act : World.Sound (act site) (Admits site) Kept
    (fun _ board writer => board.Remembers site writer) where
  own world process event keeps timely := by
    obtain ⟨kept, remembers⟩ := keeps_advance keeps process event.2
    have hkept : ((world.shared.advance event.2).write site
        (world.shared.advance event.2).clock (world.locals process)).Kept :=
      kept_write kept remembers timely
    cases hwriter : world.locals process with
    | idle => exact ⟨kept_read kept event.1, remembers_read kept event.1⟩
    | heartbeat stampedAt old choices =>
      rw [hwriter] at hkept
      exact ⟨hkept, trivial⟩
    | reaper choices stamped =>
      rw [hwriter] at hkept
      exact ⟨hkept, trivial⟩
    | manual payload loaded =>
      rw [hwriter] at hkept
      exact ⟨hkept, trivial⟩
  others world process event other keeps _ _ :=
    remembers_of_later (keeps.locals other) (later_act process _ event)

theorem keeps_begin (row : Option PresenceRow) (clock : Instant) :
    World.Keeps Kept (fun _ board writer => board.Remembers site writer)
      (opening row clock) where
  shared := nofun
  locals _ := trivial

/--
In a run in which no manual choice comes between the halves of a heartbeat or of the reaper, and no
heartbeat between those of the reaper, every turn respects the manual choice and the heartbeats.
-/
theorem every_respects_of_admitted (site : PresenceSite) (row : Option PresenceRow)
    (clock : Instant) (events : List (ℕ × Move × Instant))
    (admitted : Every (World.turn (act site)) (Admits site) (opening row clock) events) :
    Every (World.turn (act site)) (Respects site) (opening row clock) events := by
  refine every_of_invariant (World.Keeps Kept fun _ board writer => board.Remembers site writer)
    ?_ (fun world event => sound_act.turn) (keeps_begin row clock) events admitted
  intro world event keeps timely
  exact respectful_of_timely (keeps_advance keeps event.1 event.2.2).2 timely

/-- A heartbeat, a manual `busy`, a second heartbeat, and the reaper after a manual `online`. -/
theorem every_respects_manual :
    Every (World.turn (act {})) (Respects {})
      (opening (some { status := .online, updatedAt := 0 }) 0)
      [(0, .heartbeat, 10), (0, .heartbeat, 10), (1, .setStatus { status := some .busy }, 20),
        (0, .heartbeat, 30), (0, .heartbeat, 30), (1, .tick, 40),
        (1, .setStatus { status := some .online }, 50), (1, .tick, 60), (2, .tick, 200000000),
        (2, .tick, 200000000)] :=
  every_respects_of_admitted _ _ _ _ (by decide +kernel)

/--
A heartbeat that has read `online` writes it over a manual `busy`; and the reaper, after it has
found a stale row, moves to `away` an agent whose heartbeat was stamped meanwhile.
-/
theorem not_every_respects :
    ¬Every (World.turn (act {})) (Respects {})
        (opening (some { status := .online, updatedAt := 0 }) 0)
        [(0, .heartbeat, 10), (1, .setStatus { status := some .busy }, 20),
          (1, .heartbeat, 20), (0, .heartbeat, 30)] ∧
      ¬Every (World.turn (act {})) (Respects {})
        (opening (some { status := .online, lastSeen := some 0, updatedAt := 0 }) 0)
        [(0, .tick, 91000000), (1, .heartbeat, 91500000), (1, .heartbeat, 91600000),
          (0, .tick, 92000000)] := by
  constructor
  · rintro ⟨-, -, -, respects, -⟩
    exact respects ⟨_, rfl, by decide, rfl, by decide, by decide⟩
  · rintro ⟨-, -, -, respects, -⟩
    exact respects.2 ⟨_, rfl, by decide, 91500000, by decide, by decide⟩

end Runs

end Board

end Kanzan.Agents

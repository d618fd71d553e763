import Mathlib.Data.List.Sort
import Kanzan.Support.Runs

/-!
# Polls of a mailbox

`poll_once` reads what has arrived in a mailbox above a stored UID.  A poll is cut where it touches
the server or the table, so that mail can arrive and the process can die at each of these points.
The record of what has arrived and what has been handed over never influences a step.
-/

namespace Kanzan.Mail

/-- A mailbox on the server, which numbers its messages upwards and announces the next number. -/
structure Mailbox where
  uidValidity : ℕ
  uids : List ℕ
  uidNext : ℕ
  sorted : uids.Pairwise (· < ·)
  positive : ∀ uid ∈ uids, 0 < uid
  assigned : ∀ uid ∈ uids, uid < uidNext
  next_pos : 0 < uidNext

namespace Mailbox

/-- No message has ever been in the mailbox. -/
def fresh (uidValidity : ℕ) : Mailbox where
  uidValidity
  uids := []
  uidNext := 1
  sorted := .nil
  positive := nofun
  assigned := nofun
  next_pos := Nat.one_pos

def nextUid (mailbox : Mailbox) (gap : ℕ) : ℕ := mailbox.uidNext + gap

def arrive (mailbox : Mailbox) (gap skip : ℕ) : Mailbox where
  uidValidity := mailbox.uidValidity
  uids := mailbox.uids ++ [mailbox.nextUid gap]
  uidNext := mailbox.nextUid gap + 1 + skip
  sorted := by
    refine List.pairwise_append.mpr ⟨mailbox.sorted, List.pairwise_singleton _ _, ?_⟩
    intro uid hmem next hnext
    obtain rfl := List.mem_singleton.mp hnext
    exact Nat.lt_add_right gap (mailbox.assigned uid hmem)
  positive uid hmem := by
    rcases List.mem_append.mp hmem with hmem | hmem
    · exact mailbox.positive uid hmem
    · obtain rfl := List.mem_singleton.mp hmem
      exact Nat.add_pos_left mailbox.next_pos gap
  assigned uid hmem := by
    unfold nextUid
    rcases List.mem_append.mp hmem with hmem | hmem
    · have hlt := mailbox.assigned uid hmem
      omega
    · obtain rfl := List.mem_singleton.mp hmem
      unfold nextUid
      omega
  next_pos := by omega

/-- What `UID SEARCH UID start:*` matches: the range runs to the highest UID, in either order. -/
def search (mailbox : Mailbox) (start : ℕ) : List ℕ :=
  mailbox.uids.filter fun uid => min start (mailbox.uids.foldl max 0) ≤ uid

end Mailbox

/-- A row of `IMAPPollState`. -/
structure PollState where
  uidValidity : ℕ
  lastUid : ℕ := 0
deriving DecidableEq

/-- `_load_state`. -/
def loadState (uidValidity : ℕ) : Option PollState → PollState
  | none => { uidValidity }
  | some state => if state.uidValidity ≠ uidValidity then { uidValidity } else state

def watermark (row : Option PollState) : ℕ := (row.map PollState.lastUid).getD 0

/-- The UIDs above the watermark in the answer of the server, in order. -/
def newUids (lastUid : ℕ) (rawUids : List ℕ) : List ℕ :=
  (rawUids.filter fun uid => lastUid < uid).insertionSort (· ≤ ·)

/-- Where a poll stands, with what it has in memory. -/
inductive Phase where
  | idle
  /-- The mailbox is selected and its UIDVALIDITY is known. -/
  | selected (uidValidity : ℕ) (uidNext : Option ℕ)
  | loaded (lastUid : ℕ) (uidNext : Option ℕ)
  | anchored (lastUid : ℕ)
  | batch (lastUid : ℕ) (todo : List ℕ) (ingested : ℕ)
  /-- A message has been handed over and the watermark is not saved yet. -/
  | handing (lastUid uid : ℕ) (rest : List ℕ) (ingested : ℕ)
deriving DecidableEq

structure Poller where
  mailbox : Mailbox
  row : Option PollState := none
  phase : Phase := .idle
  /-- What the last poll has returned. -/
  returned : ℕ := 0

inductive PollEvent where
  | arrive (gap skip : ℕ)
  | select (validityReadable uidNextReadable : Bool)
  | load
  | anchor
  /-- The server answers the search, in any order. -/
  | search (rawUids : List ℕ)
  /-- `_ingest_one` is called, and has stored the message or not. -/
  | ingest (stored : Bool)
  | save
  | finish
  /-- An error ends the poll, or the process dies. -/
  | stop

namespace Poller

variable (poller : Poller)

/-- `state.save(update_fields=["last_uid", "updated_at"])`. -/
def saveUid (lastUid : ℕ) : Poller :=
  { poller with row := poller.row.map fun state => { state with lastUid } }

def finish (ingested : ℕ) : Poller := { poller with phase := .idle, returned := ingested }

/-- One step of `poll_once`, or of the world around it. -/
def advance : PollEvent → Poller
  | .arrive gap skip => { poller with mailbox := poller.mailbox.arrive gap skip }
  | .select validityReadable uidNextReadable =>
    match poller.phase with
    | .idle =>
      if validityReadable then
        { poller with
          phase := .selected poller.mailbox.uidValidity
            (if uidNextReadable then some poller.mailbox.uidNext else none) }
      else poller.finish 0
    | _ => poller
  | .load =>
    match poller.phase with
    | .selected uidValidity uidNext =>
      let state := loadState uidValidity poller.row
      { poller with row := some state, phase := .loaded state.lastUid uidNext }
    | _ => poller
  | .anchor =>
    match poller.phase with
    | .loaded lastUid uidNext =>
      if lastUid = 0 then
        match uidNext with
        | none => poller.finish 0
        | some uidNext =>
          -- UIDNEXT 1: nothing to anchor at, and the watermark stays 0
          if 1 < uidNext then
            { poller.saveUid (uidNext - 1) with phase := .anchored (uidNext - 1) }
          else { poller with phase := .anchored lastUid }
      else { poller with phase := .anchored lastUid }
    | _ => poller
  | .search rawUids =>
    match poller.phase with
    | .anchored lastUid =>
      if rawUids.isPerm (poller.mailbox.search (lastUid + 1)) then
        match newUids lastUid rawUids with
        | [] => poller.finish 0
        | uid :: rest => { poller with phase := .batch lastUid (uid :: rest) 0 }
      else poller
    | _ => poller
  | .ingest stored =>
    match poller.phase with
    | .batch lastUid (uid :: rest) ingested =>
      { poller with
        phase := .handing lastUid uid rest (if stored then ingested + 1 else ingested) }
    | _ => poller
  | .save =>
    match poller.phase with
    | .handing lastUid uid rest ingested =>
      if lastUid < uid then { poller.saveUid uid with phase := .batch uid rest ingested }
      else { poller with phase := .batch lastUid rest ingested }
    | _ => poller
  | .finish =>
    match poller.phase with
    | .batch _ [] ingested => poller.finish ingested
    | _ => poller
  | .stop => { poller with phase := .idle }

def receives : PollEvent → Option ℕ
  | .arrive gap _ => some (poller.mailbox.nextUid gap)
  | _ => none

/-- The message that a step hands to `_ingest_one`. -/
def hands : PollEvent → Option ℕ
  | .ingest _ =>
    match poller.phase with
    | .batch _ (uid :: _) _ => some uid
    | _ => none
  | _ => none

def begins : PollEvent → Bool
  | .select _ _ => poller.phase == .idle
  | _ => false

def completes : PollEvent → Bool
  | .search rawUids =>
    match poller.phase with
    | .anchored lastUid =>
      rawUids.isPerm (poller.mailbox.search (lastUid + 1)) && (newUids lastUid rawUids).isEmpty
    | _ => false
  | .finish =>
    match poller.phase with
    | .batch _ [] _ => true
    | _ => false
  | _ => false

def anchorsAt : PollEvent → ℕ
  | .anchor =>
    match poller.phase with
    | .loaded 0 (some uidNext) => uidNext
    | _ => 0
  | _ => 0

end Poller

/-! ## What happens around the poller -/

/-- What has happened around a poller. -/
structure History where
  started : Bool := false
  /-- A poll has run to its end. -/
  completed : Bool := false
  /-- The messages from before the first poll. -/
  present : List ℕ := []
  /-- The messages since the first poll that ran to its end. -/
  late : List ℕ := []
  /-- Those of them from before the poll that is going on. -/
  opening : List ℕ := []
  /-- Those of them from before a poll that has run to its end. -/
  due : List ℕ := []
  handed : List ℕ := []
  /-- The highest watermark that was ever saved. -/
  highest : ℕ := 0
  /-- The messages that were handed over below a saved watermark. -/
  repeated : List ℕ := []

structure Watched where
  poller : Poller
  history : History

def History.grow (history : History) (uid : ℕ) : History :=
  { history with
    present := history.present ++ if history.started then [] else [uid]
    late := history.late ++ if history.completed then [uid] else [] }

namespace Watched

def note (watched : Watched) (event : PollEvent) : History :=
  let poller := watched.poller
  let history := watched.history
  let arrived := (poller.receives event).toList
  let handed := (poller.hands event).toList
  { started := history.started || poller.begins event
    completed := history.completed || poller.completes event
    present := history.present ++ if history.started then [] else arrived
    late := history.late ++ if history.completed then arrived else []
    opening := if poller.begins event then history.late else history.opening
    due := if poller.completes event then history.opening else history.due
    handed := history.handed ++ handed
    highest := max history.highest (watermark (poller.advance event).row)
    repeated := history.repeated ++ handed.filter fun uid => uid ≤ history.highest }

def step (watched : Watched) (event : PollEvent) : Watched where
  poller := watched.poller.advance event
  history := watched.note event

def opening (mailbox : Mailbox) : Watched where
  poller := { mailbox }
  history := { present := mailbox.uids }

end Watched

/-! ## What holds wherever a poll stands -/

/-- Between the mailbox, the table and the record. -/
structure Base (mailbox : Mailbox) (row : Option PollState) (history : History) : Prop where
  validity : ∀ state, row = some state → state.uidValidity = mailbox.uidValidity
  below : watermark row < mailbox.uidNext
  unstarted : history.started = false → watermark row = 0
  present : history.present ⊆ mailbox.uids
  late : history.late ⊆ mailbox.uids
  opening : history.opening ⊆ history.late
  handed : history.handed ⊆ mailbox.uids
  covered : 0 < watermark row → ∀ uid ∈ history.present, uid ≤ watermark row
  highest : history.highest = watermark row
  once : history.repeated = []
  unseen : ∀ uid ∈ history.present, uid ∉ history.handed

def Announced (mailbox : Mailbox) (history : History) (uidNext : Option ℕ) : Prop :=
  ∀ next, uidNext = some next →
    0 < next ∧ next ≤ mailbox.uidNext ∧ ∀ uid ∈ history.present, uid < next

/-- The watermark in memory is the saved one. -/
def Stored (row : Option PollState) (history : History) (lastUid : ℕ) : Prop :=
  row.map PollState.lastUid = some lastUid ∧ history.started = true

/-- The rest of a batch: everything new is in it, or came when it was already made up. -/
structure Ahead (mailbox : Mailbox) (history : History) (lastUid : ℕ) (todo : List ℕ) : Prop where
  sorted : todo.Pairwise (· < ·)
  above : ∀ uid ∈ todo, lastUid < uid
  listed : todo ⊆ mailbox.uids
  opening : ∀ uid ∈ history.opening, lastUid < uid → uid ∈ todo
  late : ∀ uid ∈ history.late, lastUid < uid → uid ∈ todo ∨ ∀ other ∈ todo, other < uid
  old : ∀ uid ∈ history.present, uid ≤ lastUid

/-- What a poll has in memory, against the mailbox, the table and the record. -/
def Phase.Holds (mailbox : Mailbox) (row : Option PollState) (history : History) : Phase → Prop
  | .idle => True
  | .selected uidValidity uidNext =>
    uidValidity = mailbox.uidValidity ∧ history.started = true ∧
      Announced mailbox history uidNext
  | .loaded lastUid uidNext => Stored row history lastUid ∧ Announced mailbox history uidNext
  | .anchored lastUid => Stored row history lastUid ∧ ∀ uid ∈ history.present, uid ≤ lastUid
  | .batch lastUid todo _ => Stored row history lastUid ∧ Ahead mailbox history lastUid todo
  | .handing lastUid uid rest _ =>
    Stored row history lastUid ∧ Ahead mailbox history lastUid (uid :: rest) ∧
      uid ∈ history.handed

/-- The invariant of all runs. -/
structure Standing (watched : Watched) : Prop where
  base : Base watched.poller.mailbox watched.poller.row watched.history
  phase : watched.poller.phase.Holds watched.poller.mailbox watched.poller.row watched.history

theorem standing_opening (mailbox : Mailbox) : Standing (Watched.opening mailbox) where
  base :=
    { validity := nofun
      below := mailbox.next_pos
      unstarted := fun _ => rfl
      present := List.Subset.refl _
      late := List.nil_subset _
      opening := List.nil_subset _
      handed := List.nil_subset _
      covered := fun hpos => absurd hpos (Nat.lt_irrefl 0)
      highest := rfl
      once := rfl
      unseen := fun _ _ => List.not_mem_nil }
  phase := trivial

variable {event : PollEvent} {gap : ℕ} {rawUids : List ℕ}

section Laws

variable {watched : Watched} {mailbox : Mailbox} {row : Option PollState} {history : History}
variable {lastUid uid : ℕ}

theorem Stored.watermark_eq (stored : Stored row history lastUid) : watermark row = lastUid := by
  rw [watermark, stored.1]
  rfl

theorem Stored.exists_row (stored : Stored row history lastUid) :
    ∃ state, row = some state ∧ state.lastUid = lastUid := by
  cases row with
  | none => cases stored.1
  | some state => exact ⟨state, rfl, Option.some.inj stored.1⟩

/-- A step that neither takes in nor hands over anything, inside a poll. -/
structure Quiet (poller : Poller) (event : PollEvent) : Prop where
  receives : poller.receives event = none
  hands : poller.hands event = none
  begins : poller.begins event = false
  completes : poller.completes event = false

theorem Quiet.note_eq (watched : Watched) (quiet : Quiet watched.poller event) :
    watched.note event =
      { watched.history with
        highest := max watched.history.highest (watermark (watched.poller.advance event).row) } := by
  simp [Watched.note, quiet.receives, quiet.hands, quiet.begins, quiet.completes]

theorem Quiet.note_eq_self (watched : Watched) (quiet : Quiet watched.poller event)
    (base : Base watched.poller.mailbox watched.poller.row watched.history)
    (hsaved : watermark (watched.poller.advance event).row = watermark watched.poller.row) :
    watched.note event = watched.history := by
  rw [quiet.note_eq watched, hsaved, base.highest, Nat.max_self, ← base.highest]

theorem Standing.move (standing : Standing watched) (phase : Phase) (returned : ℕ)
    (quiet : Quiet watched.poller event)
    (hadvance : watched.poller.advance event = { watched.poller with phase, returned })
    (holds : phase.Holds watched.poller.mailbox watched.poller.row watched.history) :
    Standing (watched.step event) := by
  have hnote : watched.note event = watched.history :=
    quiet.note_eq_self watched standing.base (by rw [hadvance])
  rw [Watched.step, hadvance, hnote]
  exact ⟨standing.base, holds⟩

theorem Standing.stay (standing : Standing watched) (quiet : Quiet watched.poller event)
    (hadvance : watched.poller.advance event = watched.poller) : Standing (watched.step event) :=
  standing.move _ _ quiet hadvance standing.phase

theorem Base.raise (base : Base mailbox row history) {next : ℕ} (stored : Stored row history lastUid)
    (hle : lastUid ≤ next) (hlt : next < mailbox.uidNext)
    (hold : ∀ uid ∈ history.present, uid ≤ next) :
    Base mailbox (row.map fun state => { state with lastUid := next })
      { history with
        highest := max history.highest
          (watermark (row.map fun state => { state with lastUid := next })) } := by
  have hbefore := stored.watermark_eq
  obtain ⟨state, rfl, -⟩ := stored.exists_row
  have hmark : watermark (some { state with lastUid := next }) = next := rfl
  rw [Option.map_some, hmark]
  exact
    { validity := by
        rintro state' ⟨⟩
        exact base.validity state rfl
      below := hlt
      unstarted := fun hunstarted => by
        cases stored.2.symm.trans hunstarted
      present := base.present
      late := base.late
      opening := base.opening
      handed := base.handed
      covered := fun _ => hold
      highest := by
        rw [base.highest, hbefore]
        exact Nat.max_eq_right hle
      once := base.once
      unseen := base.unseen }

theorem note_arrive (base : Base watched.poller.mailbox watched.poller.row watched.history)
    (gap skip : ℕ) :
    watched.note (.arrive gap skip) =
      watched.history.grow (watched.poller.mailbox.nextUid gap) := by
  have hhighest : max watched.history.highest (watermark watched.poller.row) =
      watched.history.highest := by
    rw [← base.highest, Nat.max_self]
  simp [Watched.note, Poller.receives, Poller.hands, Poller.begins, Poller.completes,
    Poller.advance, History.grow, hhighest]

theorem Mailbox.lt_nextUid (hmem : uid ∈ mailbox.uids) : uid < mailbox.nextUid gap :=
  Nat.lt_add_right gap (mailbox.assigned uid hmem)

theorem Mailbox.nextUid_notMem : mailbox.nextUid gap ∉ mailbox.uids := fun hmem =>
  Nat.lt_irrefl _ (mailbox.lt_nextUid hmem)

theorem Mailbox.mem_arrive {skip : ℕ} :
    uid ∈ (mailbox.arrive gap skip).uids ↔ uid ∈ mailbox.uids ∨ uid = mailbox.nextUid gap := by
  simp [Mailbox.arrive]

theorem Mailbox.uidNext_lt_arrive {skip : ℕ} :
    mailbox.uidNext < (mailbox.arrive gap skip).uidNext := by
  simp only [Mailbox.arrive, Mailbox.nextUid]
  omega

theorem mem_append_ite {arrived : ℕ} {uids : List ℕ} {condition : Bool}
    (hmem : uid ∈ uids ++ if condition then [arrived] else []) :
    uid ∈ uids ∨ condition = true ∧ uid = arrived := by
  cases condition with
  | false => simpa using hmem
  | true => simpa using hmem

theorem Base.arrive (base : Base mailbox row history) (gap skip : ℕ) :
    Base (mailbox.arrive gap skip) row (history.grow (mailbox.nextUid gap)) := by
  have hpresent : ∀ uid ∈ (history.grow (mailbox.nextUid gap)).present,
      uid ∈ history.present ∨ history.started = false ∧ uid = mailbox.nextUid gap := by
    intro uid hmem
    cases hstarted : history.started with
    | false => simpa [History.grow, hstarted] using hmem
    | true => simpa [History.grow, hstarted] using hmem
  exact
    { validity := base.validity
      below := Nat.lt_trans base.below Mailbox.uidNext_lt_arrive
      unstarted := base.unstarted
      present := by
        intro uid hmem
        rcases hpresent uid hmem with hold | ⟨-, rfl⟩
        · exact Mailbox.mem_arrive.mpr (.inl (base.present hold))
        · exact Mailbox.mem_arrive.mpr (.inr rfl)
      late := by
        intro uid hmem
        rcases mem_append_ite hmem with hold | ⟨-, rfl⟩
        · exact Mailbox.mem_arrive.mpr (.inl (base.late hold))
        · exact Mailbox.mem_arrive.mpr (.inr rfl)
      opening := fun uid hmem => List.mem_append_left _ (base.opening hmem)
      handed := fun uid hmem => Mailbox.mem_arrive.mpr (.inl (base.handed hmem))
      covered := by
        intro hpos uid hmem
        rcases hpresent uid hmem with hold | ⟨hunstarted, -⟩
        · exact base.covered hpos uid hold
        · rw [base.unstarted hunstarted] at hpos
          exact absurd hpos (Nat.lt_irrefl 0)
      highest := base.highest
      once := base.once
      unseen := by
        intro uid hmem hhanded
        rcases hpresent uid hmem with hold | ⟨-, rfl⟩
        · exact base.unseen uid hold hhanded
        · exact mailbox.nextUid_notMem (base.handed hhanded) }

theorem Phase.Holds.arrive {phase : Phase} (holds : phase.Holds mailbox row history)
    (gap skip : ℕ) :
    phase.Holds (mailbox.arrive gap skip) row (history.grow (mailbox.nextUid gap)) := by
  have hold : ∀ uid, history.started = true →
      uid ∈ (history.grow (mailbox.nextUid gap)).present → uid ∈ history.present := by
    intro uid hstarted hmem
    simpa [History.grow, hstarted] using hmem
  have hannounced : ∀ uidNext, history.started = true → Announced mailbox history uidNext →
      Announced (mailbox.arrive gap skip) (history.grow (mailbox.nextUid gap)) uidNext := by
    intro uidNext hstarted announced next hnext
    obtain ⟨hpos, hle, hbelow⟩ := announced next hnext
    exact ⟨hpos, Nat.le_trans hle (Nat.le_of_lt Mailbox.uidNext_lt_arrive),
      fun uid hmem => hbelow uid (hold uid hstarted hmem)⟩
  have hahead : ∀ lastUid todo, history.started = true → Ahead mailbox history lastUid todo →
      Ahead (mailbox.arrive gap skip) (history.grow (mailbox.nextUid gap)) lastUid todo := by
    intro lastUid todo hstarted ahead
    exact
      { sorted := ahead.sorted
        above := ahead.above
        listed := fun uid hmem => Mailbox.mem_arrive.mpr (.inl (ahead.listed hmem))
        opening := ahead.opening
        late := by
          intro uid hmem hlt
          rcases mem_append_ite hmem with hold | ⟨-, rfl⟩
          · exact ahead.late uid hold hlt
          · exact .inr fun other hother => mailbox.lt_nextUid (ahead.listed hother)
        old := fun uid hmem => ahead.old uid (hold uid hstarted hmem) }
  cases phase with
  | idle => trivial
  | selected uidValidity uidNext =>
    obtain ⟨hvalidity, hstarted, announced⟩ := holds
    exact ⟨hvalidity, hstarted, hannounced uidNext hstarted announced⟩
  | loaded lastUid uidNext =>
    obtain ⟨stored, announced⟩ := holds
    exact ⟨stored, hannounced uidNext stored.2 announced⟩
  | anchored lastUid =>
    obtain ⟨stored, hbelow⟩ := holds
    exact ⟨stored, fun uid hmem => hbelow uid (hold uid stored.2 hmem)⟩
  | batch lastUid todo ingested =>
    obtain ⟨stored, ahead⟩ := holds
    exact ⟨stored, hahead lastUid todo stored.2 ahead⟩
  | handing lastUid uid rest ingested =>
    obtain ⟨stored, ahead, hhanded⟩ := holds
    exact ⟨stored, hahead lastUid (uid :: rest) stored.2 ahead, hhanded⟩

theorem Standing.arrive (standing : Standing watched) (gap skip : ℕ) :
    Standing (watched.step (.arrive gap skip)) := by
  rw [Watched.step, note_arrive standing.base]
  exact ⟨standing.base.arrive gap skip, standing.phase.arrive gap skip⟩

/-! ## The steps of a poll -/

/-- A poll begins, and what the server announces is noted. -/
theorem Standing.select (standing : Standing watched) (validityReadable uidNextReadable : Bool) :
    Standing (watched.step (.select validityReadable uidNextReadable)) := by
  obtain ⟨⟨mailbox, row, phase, returned⟩, history⟩ := watched
  obtain ⟨base, holds⟩ := standing
  change Base mailbox row history at base
  change phase.Holds mailbox row history at holds
  cases phase with
  | idle =>
    let begun : History := { history with started := true, opening := history.late }
    have hbase : Base mailbox row begun :=
      { base with
        unstarted := nofun
        opening := List.Subset.refl _ }
    have hhighest : max history.highest (watermark row) = history.highest := by
      rw [← base.highest, Nat.max_self]
    have hnote : Watched.note ⟨⟨mailbox, row, .idle, returned⟩, history⟩
        (.select validityReadable uidNextReadable) = begun := by
      cases validityReadable with
      | true => simp [begun, Watched.note, Poller.receives, Poller.hands, Poller.begins,
          Poller.completes, Poller.advance, hhighest]
      | false => simp [begun, Watched.note, Poller.receives, Poller.hands, Poller.begins,
          Poller.completes, Poller.advance, Poller.finish, hhighest]
    rw [Watched.step, hnote]
    cases validityReadable with
    | false => exact ⟨hbase, trivial⟩
    | true =>
      refine ⟨hbase, rfl, rfl, ?_⟩
      intro next hnext
      rw [Option.ite_none_right_eq_some, Option.some.injEq] at hnext
      obtain ⟨-, rfl⟩ := hnext
      exact ⟨mailbox.next_pos, Nat.le_refl _, fun uid hmem =>
        mailbox.assigned uid (base.present hmem)⟩
  | _ => exact Standing.stay ⟨base, holds⟩ ⟨rfl, rfl, rfl, rfl⟩ rfl

theorem Base.loadState (base : Base mailbox row history) :
    (loadState mailbox.uidValidity row).uidValidity = mailbox.uidValidity ∧
      watermark (some (loadState mailbox.uidValidity row)) = watermark row := by
  cases row with
  | none => exact ⟨rfl, rfl⟩
  | some state =>
    have hsame := base.validity state rfl
    rw [Mail.loadState, if_neg (not_not.mpr hsame)]
    exact ⟨hsame, rfl⟩

theorem Standing.load (standing : Standing watched) : Standing (watched.step .load) := by
  obtain ⟨⟨mailbox, row, phase, returned⟩, history⟩ := watched
  obtain ⟨base, holds⟩ := standing
  change Base mailbox row history at base
  change phase.Holds mailbox row history at holds
  cases phase with
  | selected uidValidity uidNext =>
    obtain ⟨rfl, hstarted, announced⟩ := holds
    have quiet : Quiet ⟨mailbox, row, .selected mailbox.uidValidity uidNext, returned⟩ .load :=
      ⟨rfl, rfl, rfl, rfl⟩
    obtain ⟨hvalidity, hmark⟩ := base.loadState
    have hnote : Watched.note ⟨_, history⟩ .load = history := quiet.note_eq_self ⟨_, history⟩ base hmark
    rw [Watched.step, hnote]
    exact
      { base :=
          { base with
            validity := by
              rintro state ⟨⟩
              exact hvalidity
            below := hmark ▸ base.below
            unstarted := hmark ▸ base.unstarted
            covered := hmark ▸ base.covered
            highest := hmark ▸ base.highest }
        phase := ⟨⟨rfl, hstarted⟩, announced⟩ }
  | _ => exact Standing.stay ⟨base, holds⟩ ⟨rfl, rfl, rfl, rfl⟩ rfl

/-- A mailbox that counts as new is anchored below what is announced. -/
theorem Standing.anchor (standing : Standing watched) : Standing (watched.step .anchor) := by
  obtain ⟨⟨mailbox, row, phase, returned⟩, history⟩ := watched
  obtain ⟨base, holds⟩ := standing
  change Base mailbox row history at base
  change phase.Holds mailbox row history at holds
  cases phase with
  | loaded lastUid uidNext =>
    have standing : Standing ⟨⟨mailbox, row, .loaded lastUid uidNext, returned⟩, history⟩ :=
      ⟨base, holds⟩
    have quiet : Quiet ⟨mailbox, row, .loaded lastUid uidNext, returned⟩ .anchor :=
      ⟨rfl, rfl, rfl, rfl⟩
    obtain ⟨stored, announced⟩ := holds
    have hmark : watermark row = lastUid := stored.watermark_eq
    by_cases hzero : lastUid = 0
    · subst hzero
      cases uidNext with
      | none => exact standing.move .idle 0 quiet rfl trivial
      | some next =>
        obtain ⟨hpos, hle, hold⟩ := announced next rfl
        by_cases hone : 1 < next
        · have hadvance : Poller.advance ⟨mailbox, row, .loaded 0 (some next), returned⟩ .anchor =
              ⟨mailbox, row.map fun state => { state with lastUid := next - 1 },
                .anchored (next - 1), returned⟩ := by
            simp [Poller.advance, Poller.saveUid, hone]
          have hnote := quiet.note_eq ⟨_, history⟩
          rw [hadvance] at hnote
          rw [Watched.step, hnote, hadvance]
          have hbelow : ∀ uid ∈ history.present, uid ≤ next - 1 := fun uid hmem =>
            Nat.le_sub_one_of_lt (hold uid hmem)
          have hnext : next - 1 < mailbox.uidNext := by omega
          refine ⟨base.raise stored (Nat.zero_le _) hnext hbelow, ⟨?_, stored.2⟩, hbelow⟩
          obtain ⟨state, rfl, -⟩ := stored.exists_row
          rfl
        · have hadvance : Poller.advance ⟨mailbox, row, .loaded 0 (some next), returned⟩ .anchor =
              ⟨mailbox, row, .anchored 0, returned⟩ := by
            simp [Poller.advance, hone]
          refine standing.move (.anchored 0) returned quiet hadvance ⟨stored, ?_⟩
          intro uid hmem
          have hlt := hold uid hmem
          omega
    · have hadvance : Poller.advance ⟨mailbox, row, .loaded lastUid uidNext, returned⟩ .anchor =
          ⟨mailbox, row, .anchored lastUid, returned⟩ := by
        simp [Poller.advance, hzero]
      refine standing.move (.anchored lastUid) returned quiet hadvance ⟨stored, ?_⟩
      have hcovered := base.covered
      rw [hmark] at hcovered
      exact hcovered (Nat.pos_of_ne_zero hzero)
  | _ => exact Standing.stay ⟨base, holds⟩ ⟨rfl, rfl, rfl, rfl⟩ rfl

theorem mem_newUids (hperm : rawUids.isPerm (mailbox.search (lastUid + 1)) = true) :
    uid ∈ newUids lastUid rawUids ↔ uid ∈ mailbox.uids ∧ lastUid < uid := by
  rw [newUids, List.mem_insertionSort, List.mem_filter, (List.isPerm_iff.mp hperm).mem_iff,
    Mailbox.search, List.mem_filter, decide_eq_true_eq, decide_eq_true_eq]
  constructor
  · rintro ⟨⟨hmem, -⟩, hlt⟩
    exact ⟨hmem, hlt⟩
  · rintro ⟨hmem, hlt⟩
    exact ⟨⟨hmem, Nat.le_trans (Nat.min_le_left _ _) hlt⟩, hlt⟩

theorem Mailbox.search_nodup (start : ℕ) : (mailbox.search start).Nodup :=
  (mailbox.sorted.imp Nat.ne_of_lt).filter _

theorem newUids_sorted (hperm : rawUids.isPerm (mailbox.search (lastUid + 1)) = true) :
    (newUids lastUid rawUids).Pairwise (· < ·) := by
  have hnodup : (newUids lastUid rawUids).Nodup := by
    refine (List.perm_insertionSort _ _).nodup_iff.mpr (List.Nodup.filter _ ?_)
    exact (List.isPerm_iff.mp hperm).nodup_iff.mpr (mailbox.search_nodup _)
  have hsorted : (newUids lastUid rawUids).Pairwise (· ≤ ·) := List.pairwise_insertionSort _ _
  exact (hsorted.and hnodup).imp fun hboth => Nat.lt_of_le_of_ne hboth.1 hboth.2

theorem note_completes (watched : Watched) (event : PollEvent)
    (base : Base watched.poller.mailbox watched.poller.row watched.history)
    (hreceives : watched.poller.receives event = none)
    (hhands : watched.poller.hands event = none) (hbegins : watched.poller.begins event = false)
    (hcompletes : watched.poller.completes event = true)
    (hsaved : (watched.poller.advance event).row = watched.poller.row) :
    watched.note event =
      { watched.history with completed := true, due := watched.history.opening } := by
  have hhighest : max watched.history.highest (watermark watched.poller.row) =
      watched.history.highest := by
    rw [← base.highest, Nat.max_self]
  simp [Watched.note, hreceives, hhands, hbegins, hcompletes, hsaved, hhighest]

/-- The answer of the server becomes the batch, or ends the poll. -/
theorem Standing.search (standing : Standing watched) (rawUids : List ℕ) :
    Standing (watched.step (.search rawUids)) := by
  obtain ⟨⟨mailbox, row, phase, returned⟩, history⟩ := watched
  obtain ⟨base, holds⟩ := standing
  change Base mailbox row history at base
  change phase.Holds mailbox row history at holds
  cases phase with
  | anchored lastUid =>
    have standing : Standing ⟨⟨mailbox, row, .anchored lastUid, returned⟩, history⟩ :=
      ⟨base, holds⟩
    obtain ⟨stored, hold⟩ := holds
    cases hperm : rawUids.isPerm (mailbox.search (lastUid + 1)) with
    | false =>
      refine standing.stay ⟨rfl, rfl, rfl, ?_⟩ ?_
      · simp [Poller.completes, hperm]
      · simp [Poller.advance, hperm]
    | true =>
      cases huids : newUids lastUid rawUids with
      | nil =>
        have hadvance : Poller.advance ⟨mailbox, row, .anchored lastUid, returned⟩
            (.search rawUids) = ⟨mailbox, row, .idle, 0⟩ := by
          simp [Poller.advance, hperm, huids, Poller.finish]
        have hnote := note_completes ⟨⟨mailbox, row, .anchored lastUid, returned⟩, history⟩
          (.search rawUids) base rfl rfl rfl
          (by simp [Poller.completes, hperm, huids]) (by rw [hadvance])
        rw [Watched.step, hnote, hadvance]
        exact ⟨{ base with }, trivial⟩
      | cons uid rest =>
        have hmem : ∀ {other : ℕ}, other ∈ newUids lastUid rawUids ↔
            other ∈ mailbox.uids ∧ lastUid < other := mem_newUids hperm
        have hsorted := newUids_sorted hperm
        rw [huids] at hsorted
        refine standing.move (.batch lastUid (uid :: rest) 0) returned ⟨rfl, rfl, rfl, ?_⟩ ?_ ?_
        · simp [Poller.completes, hperm, huids]
        · simp [Poller.advance, hperm, huids]
        · exact ⟨stored,
            { sorted := hsorted
              above := fun other hother => (hmem.mp (huids ▸ hother)).2
              listed := fun other hother => (hmem.mp (huids ▸ hother)).1
              opening := fun other hother hlt =>
                huids ▸ hmem.mpr ⟨base.late (base.opening hother), hlt⟩
              late := fun other hother hlt => .inl (huids ▸ hmem.mpr ⟨base.late hother, hlt⟩)
              old := hold }⟩
  | _ => exact Standing.stay ⟨base, holds⟩ ⟨rfl, rfl, rfl, rfl⟩ rfl

/-- The next message of the batch is handed over. -/
theorem Standing.ingest (standing : Standing watched) (stored : Bool) :
    Standing (watched.step (.ingest stored)) := by
  obtain ⟨⟨mailbox, row, phase, returned⟩, history⟩ := watched
  obtain ⟨base, holds⟩ := standing
  change Base mailbox row history at base
  change phase.Holds mailbox row history at holds
  cases phase with
  | batch lastUid todo ingested =>
    cases todo with
    | nil => exact Standing.stay ⟨base, holds⟩ ⟨rfl, rfl, rfl, rfl⟩ rfl
    | cons uid rest =>
      obtain ⟨saved, ahead⟩ := holds
      have hmark : watermark row = lastUid := saved.watermark_eq
      have habove := ahead.above uid List.mem_cons_self
      have hunsettled : ¬ uid ≤ history.highest := by
        rw [base.highest, hmark]
        exact Nat.not_le_of_lt habove
      have hhighest : max history.highest (watermark row) = history.highest := by
        rw [← base.highest, Nat.max_self]
      have hnote : Watched.note ⟨⟨mailbox, row, .batch lastUid (uid :: rest) ingested, returned⟩,
          history⟩ (.ingest stored) = { history with handed := history.handed ++ [uid] } := by
        simp [Watched.note, Poller.receives, Poller.hands, Poller.begins, Poller.completes,
          Poller.advance, hhighest, hunsettled]
      rw [Watched.step, hnote]
      refine ⟨?_, saved, { ahead with }, List.mem_append_right _ List.mem_cons_self⟩
      exact
        { base with
          handed := List.append_subset.mpr ⟨base.handed, fun other hother => by
            obtain rfl := List.mem_singleton.mp hother
            exact ahead.listed List.mem_cons_self⟩
          unseen := by
            intro other hold hhanded
            rcases List.mem_append.mp hhanded with hhanded | hhanded
            · exact base.unseen other hold hhanded
            · obtain rfl := List.mem_singleton.mp hhanded
              exact Nat.not_lt_of_le (ahead.old other hold) habove }
  | _ => exact Standing.stay ⟨base, holds⟩ ⟨rfl, rfl, rfl, rfl⟩ rfl

theorem Ahead.tail {rest : List ℕ} (ahead : Ahead mailbox history lastUid (uid :: rest)) :
    Ahead mailbox history uid rest where
  sorted := ahead.sorted.of_cons
  above := (List.pairwise_cons.mp ahead.sorted).1
  listed := fun other hother => ahead.listed (List.mem_cons_of_mem uid hother)
  opening other hother hlt := by
    have habove := ahead.above uid List.mem_cons_self
    rcases List.mem_cons.mp (ahead.opening other hother (Nat.lt_trans habove hlt)) with rfl | hmem
    · exact absurd hlt (Nat.lt_irrefl other)
    · exact hmem
  late other hother hlt := by
    have habove := ahead.above uid List.mem_cons_self
    rcases ahead.late other hother (Nat.lt_trans habove hlt) with hmem | hbeyond
    · rcases List.mem_cons.mp hmem with rfl | hmem
      · exact absurd hlt (Nat.lt_irrefl other)
      · exact .inl hmem
    · exact .inr fun next hnext => hbeyond next (List.mem_cons_of_mem uid hnext)
  old := fun other hother =>
    Nat.le_trans (ahead.old other hother) (Nat.le_of_lt (ahead.above uid List.mem_cons_self))

/-- The watermark follows the message that has been handed over. -/
theorem Standing.save (standing : Standing watched) : Standing (watched.step .save) := by
  obtain ⟨⟨mailbox, row, phase, returned⟩, history⟩ := watched
  obtain ⟨base, holds⟩ := standing
  change Base mailbox row history at base
  change phase.Holds mailbox row history at holds
  cases phase with
  | handing lastUid uid rest ingested =>
    have quiet : Quiet ⟨mailbox, row, .handing lastUid uid rest ingested, returned⟩ .save :=
      ⟨rfl, rfl, rfl, rfl⟩
    obtain ⟨stored, ahead, -⟩ := holds
    have hmark : watermark row = lastUid := stored.watermark_eq
    have habove := ahead.above uid List.mem_cons_self
    have hadvance : Poller.advance ⟨mailbox, row, .handing lastUid uid rest ingested, returned⟩
        .save = ⟨mailbox, row.map fun state => { state with lastUid := uid },
          .batch uid rest ingested, returned⟩ := by
      simp [Poller.advance, Poller.saveUid, habove]
    have hnote := quiet.note_eq ⟨_, history⟩
    rw [hadvance] at hnote
    rw [Watched.step, hnote, hadvance]
    have hassigned := mailbox.assigned uid (ahead.listed List.mem_cons_self)
    refine ⟨base.raise stored (Nat.le_of_lt habove) hassigned ahead.tail.old, ⟨?_, stored.2⟩,
      { ahead.tail with }⟩
    obtain ⟨state, rfl, -⟩ := stored.exists_row
    rfl
  | _ => exact Standing.stay ⟨base, holds⟩ ⟨rfl, rfl, rfl, rfl⟩ rfl

theorem Standing.finish (standing : Standing watched) : Standing (watched.step .finish) := by
  obtain ⟨⟨mailbox, row, phase, returned⟩, history⟩ := watched
  obtain ⟨base, holds⟩ := standing
  change Base mailbox row history at base
  change phase.Holds mailbox row history at holds
  cases phase with
  | batch lastUid todo ingested =>
    cases todo with
    | nil =>
      have hnote := note_completes ⟨⟨mailbox, row, .batch lastUid [] ingested, returned⟩, history⟩
        .finish base rfl rfl rfl rfl rfl
      rw [Watched.step, hnote]
      exact ⟨{ base with }, trivial⟩
    | cons uid rest => exact Standing.stay ⟨base, holds⟩ ⟨rfl, rfl, rfl, rfl⟩ rfl
  | _ => exact Standing.stay ⟨base, holds⟩ ⟨rfl, rfl, rfl, rfl⟩ rfl

theorem standing_step (standing : Standing watched) (event : PollEvent) :
    Standing (watched.step event) := by
  cases event with
  | arrive gap skip => exact standing.arrive gap skip
  | select validityReadable uidNextReadable => exact standing.select validityReadable uidNextReadable
  | load => exact standing.load
  | anchor => exact standing.anchor
  | search rawUids => exact standing.search rawUids
  | ingest stored => exact standing.ingest stored
  | save => exact standing.save
  | finish => exact standing.finish
  | stop => exact standing.move .idle watched.poller.returned ⟨rfl, rfl, rfl, rfl⟩ rfl trivial

end Laws

end Kanzan.Mail

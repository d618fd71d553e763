import Kanzan.Support.Programs

/-!
# Requests that load a row and write it back

Any number of requests each load one shared row, and then run a program whose updates list
some columns and write them from a row in memory.  Nothing is locked.  A column that no
request is to touch keeps its value, and a column that a request submits has the submitted
value in the end, provided that no update puts an outdated value over it.
-/

namespace Kanzan.Support

universe u

/-- A store with one row in it, read and written by columns. -/
structure Table (Store Update Row Key : Type u) where
  row : Store → Row
  apply : Update → Store → Store
  /-- The columns that an update lists. -/
  lists : Update → Key → Prop
  /-- An update puts into a column the value that a row has there. -/
  puts : Update → Key → Row → Prop
  same : Key → Row → Row → Prop
  equivalence : ∀ key, Equivalence (same key)
  same_of_puts : ∀ {update key value} store, lists update key → puts update key value →
    same key (row (apply update store)) value
  same_of_not_lists : ∀ {update key} store, ¬lists update key →
    same key (row (apply update store)) (row store)

namespace Table

variable {Store Update Row Key Result : Type u} {table : Table Store Update Row Key}
variable {program : Program Store Update Result} {store after : Store}
variable {result : Except String Result} {key : Key}

/-- A program that updates no listing of a column leaves the column alone. -/
theorem row_of_quiet (quiet : program.Quiet fun update => table.lists update key)
    (ends : program.alone table.apply store = (result, after)) :
    table.same key (table.row after) (table.row store) := by
  have hequal := table.equivalence key
  induction quiet generalizing store with
  | done _ =>
    obtain rfl := (Prod.mk.inj ends).2
    exact hequal.refl _
  | fail message =>
    obtain rfl := (Prod.mk.inj ends).2
    exact hequal.refl _
  | read _ ih => exact ih store trivial ends
  | write silent _ ih => exact hequal.trans (ih ends) (table.same_of_not_lists store silent)

/-- A program that ends well has settled what was pending. -/
theorem row_of_pending {value : Row} {Old : Update → Prop}
    (pending : program.Pending (fun update => table.lists update key) Old
      (fun update => table.puts update key value)) {final : Result}
    (ends : program.alone table.apply store = (.ok final, after)) :
    table.same key (table.row after) value := by
  induction pending generalizing store with
  | fail message => cases (Prod.mk.inj ends).1
  | read _ ih => exact ih store ends
  | last lists puts quiet =>
    exact (table.equivalence key).trans (row_of_quiet quiet ends)
      (table.same_of_puts store lists puts)
  | skip _ _ ih => exact ih ends

end Table

/--
The requests on a table.  Each depends on the row it has loaded: the program it runs, the
columns it submits and the row as it is to be, the columns it derives from these, and
whether it is clear, that is does on its own what it is asked for.  Some columns trail a
leading one: they may follow any change of it.
-/
structure Traffic (Store Update Row Key : Type u) extends Table Store Update Row Key where
  serve : ℕ → Row → Program Store Update PUnit.{u + 1}
  submits : ℕ → Row → Key → Prop
  wish : ℕ → Row → Row
  derives : ℕ → Row → Key → Prop
  clear : ℕ → Row → Prop
  leader : Key
  trails : Key → Prop

/-- A request that has loaded the row, and what is left of its program. -/
structure Serving (Store Update Row : Type u) where
  loaded : Row
  program : Program Store Update PUnit.{u + 1}

namespace Traffic

variable {Store Update Row Key : Type u}

/-- The shared store, and what has become of every request. -/
abbrev State (Store Update Row : Type u) := World Store (Option (Serving Store Update Row))

variable (traffic : Traffic Store Update Row Key)

/-- A request loads the row at its first turn and takes a step of its program at any other. -/
def act (request : ℕ) (store : Store) :
    Option (Serving Store Update Row) → Unit → Store × Option (Serving Store Update Row)
  | none, _ =>
    (store, some ⟨traffic.row store, traffic.serve request (traffic.row store)⟩)
  | some serving, _ =>
    let after := serving.program.step traffic.apply store
    (after.1, some { serving with program := after.2 })

/-- The turn of a request. -/
def turn (state : State Store Update Row) (request : ℕ) : State Store Update Row :=
  state.turn traffic.act (request, ())

/-- A store that no request has loaded from yet. -/
def start (store : Store) : State Store Update Row where
  shared := store
  locals := fun _ => none

/-- A request has loaded this row. -/
def Loaded (state : State Store Update Row) (request : ℕ) (loaded : Row) : Prop :=
  ∃ program, state.locals request = some ⟨loaded, program⟩

/-- A request has loaded this row and succeeded. -/
def Succeeded (state : State Store Update Row) (request : ℕ) (loaded : Row) : Prop :=
  state.locals request = some ⟨loaded, .done ⟨⟩⟩

/-- No two requests submit the same column. -/
def Apart (state : State Store Update Row) : Prop :=
  ∀ first second loaded other key, first ≠ second → Loaded state first loaded →
    Loaded state second other → traffic.submits first loaded key →
      ¬traffic.submits second other key

/-- Some request submits or derives this column. -/
def Touched (state : State Store Update Row) (key : Key) : Prop :=
  ∃ request loaded, Loaded state request loaded ∧
    (traffic.submits request loaded key ∨ traffic.derives request loaded key)

/-- Some request derives this column, or it trails a column that some request touches. -/
def Derived (state : State Store Update Row) (key : Key) : Prop :=
  (∃ request loaded, Loaded state request loaded ∧ traffic.derives request loaded key) ∨
    traffic.trails key ∧ traffic.Touched state traffic.leader

/--
What a turn needs so as not to do harm.  The row that a request loads is clear.  An update
that lists a column which another request submits either finds in the row what its own
request has loaded, or, where its request derives the column, the other is still to
write it.
-/
def Undisturbed (state : State Store Update Row) (request : ℕ) : Prop :=
  match state.locals request with
  | none => traffic.clear request (traffic.row state.shared)
  | some ⟨loaded, .write update _⟩ =>
    ∀ key other served, traffic.lists update key → other ≠ request →
      state.locals other = some served → traffic.submits other served.loaded key →
        (traffic.derives request loaded key →
          served.program.Owes fun update => traffic.lists update key) ∧
        (¬traffic.derives request loaded key →
          traffic.same key loaded (traffic.row state.shared))
  | some _ => True

/-- A column returns to an older value in the course of a run. -/
def Returns (key : Key) (state : State Store Update Row) (schedule : List ℕ) : Prop :=
  ∃ first second third rest, schedule = first ++ second ++ third ++ rest ∧
    let before := traffic.row (run traffic.turn state first).shared
    let between := traffic.row (run traffic.turn state (first ++ second)).shared
    let after := traffic.row (run traffic.turn state (first ++ second ++ third)).shared
    traffic.same key before after ∧ ¬traffic.same key before between

/--
What the requests promise.  An update of a clear request puts into a column that the request
neither submits nor derives what the request has loaded; the trailing columns are excepted
unless the leading one stays as it was loaded.  A submitted column is written last as
submitted, or was so already.
-/
structure Lawful : Prop where
  submits_not_derives : ∀ {request loaded key}, traffic.clear request loaded →
    traffic.submits request loaded key → ¬traffic.derives request loaded key
  submits_not_trails : ∀ {request loaded key}, traffic.submits request loaded key →
    ¬traffic.trails key
  carries : ∀ {request loaded}, traffic.clear request loaded → ∀ steady : Prop,
    (steady → ¬traffic.submits request loaded traffic.leader ∧
      ¬traffic.derives request loaded traffic.leader) →
    (traffic.serve request loaded).Meets
      (fun store => steady → traffic.same traffic.leader (traffic.row store) loaded)
      (fun update => ∀ key, traffic.lists update key → ¬traffic.submits request loaded key →
        ¬traffic.derives request loaded key → (steady ∨ ¬traffic.trails key) →
          traffic.puts update key loaded)
      (fun _ => True)
  delivers : ∀ {request loaded key}, traffic.clear request loaded →
    traffic.submits request loaded key →
    (traffic.serve request loaded).Pending (fun update => traffic.lists update key)
        (fun update => traffic.puts update key loaded)
        (fun update => traffic.puts update key (traffic.wish request loaded)) ∨
      (traffic.serve request loaded).Quiet (fun update => traffic.lists update key) ∧
        traffic.same key loaded (traffic.wish request loaded)

/-! ## What a turn does -/

section Laws

variable {traffic} {state : State Store Update Row} {request : ℕ}

theorem turn_of_none (traffic : Traffic Store Update Row Key)
    (hnone : state.locals request = none) :
    (traffic.turn state request).shared = state.shared ∧
      (traffic.turn state request).locals request =
        some ⟨traffic.row state.shared, traffic.serve request (traffic.row state.shared)⟩ := by
  constructor
  · simp only [turn, World.turn_shared, hnone, act]
  · rw [turn, World.turn_locals_self, hnone]
    rfl

theorem turn_of_some (traffic : Traffic Store Update Row Key) {serving : Serving Store Update Row}
    (hserving : state.locals request = some serving) :
    (traffic.turn state request).shared =
        (serving.program.step traffic.apply state.shared).1 ∧
      (traffic.turn state request).locals request =
        some ⟨serving.loaded, (serving.program.step traffic.apply state.shared).2⟩ := by
  constructor
  · simp only [turn, World.turn_shared, hserving, act]
  · rw [turn, World.turn_locals_self, hserving]
    rfl

theorem turn_locals_of_ne {other : ℕ} (hother : other ≠ request) :
    (traffic.turn state request).locals other = state.locals other :=
  World.turn_locals_of_ne state () hother

theorem undisturbed_of_none (hnone : state.locals request = none)
    (hclear : traffic.clear request (traffic.row state.shared)) :
    traffic.Undisturbed state request := by
  simp only [Undisturbed, hnone]
  exact hclear

theorem undisturbed_of_write (loaded : Row) {update : Update}
    {next : Program Store Update PUnit}
    (hwrite : state.locals request = some ⟨loaded, .write update next⟩)
    (hother : ∀ key other served, traffic.lists update key → other ≠ request →
      state.locals other = some served → traffic.submits other served.loaded key →
        ¬traffic.derives request loaded key ∧
          traffic.same key loaded (traffic.row state.shared)) :
    traffic.Undisturbed state request := by
  simp only [Undisturbed, hwrite]
  intro key other served hlists hne hserved hsubmits
  obtain ⟨hderives, hsame⟩ := hother key other served hlists hne hserved hsubmits
  exact ⟨fun h => absurd h hderives, fun _ => hsame⟩

/-- A turn leaves a column of the row as it is unless it updates the column. -/
theorem row_turn (traffic : Traffic Store Update Row Key) (state : State Store Update Row)
    (request : ℕ) (key : Key) :
    traffic.same key (traffic.row (traffic.turn state request).shared)
        (traffic.row state.shared) ∨
      ∃ loaded update next, state.locals request = some ⟨loaded, .write update next⟩ ∧
        traffic.lists update key ∧
        ∀ value, traffic.puts update key value →
          traffic.same key (traffic.row (traffic.turn state request).shared) value := by
  cases hlocal : state.locals request with
  | none =>
    rw [(turn_of_none traffic hlocal).1]
    exact .inl ((traffic.equivalence key).refl _)
  | some serving =>
    rw [(turn_of_some traffic hlocal).1]
    obtain ⟨loaded, program⟩ := serving
    cases program with
    | done result => exact .inl ((traffic.equivalence key).refl _)
    | fail message => exact .inl ((traffic.equivalence key).refl _)
    | read next => exact .inl ((traffic.equivalence key).refl _)
    | write update next =>
      by_cases hlists : traffic.lists update key
      · exact .inr ⟨loaded, update, next, rfl, hlists,
          fun _ hputs => traffic.same_of_puts _ hlists hputs⟩
      · exact .inl (traffic.same_of_not_lists _ hlists)

/-- What has been loaded stays so. -/
theorem Loaded.turn {other : ℕ} {loaded : Row} (h : Loaded state other loaded) (request : ℕ) :
    Loaded (traffic.turn state request) other loaded := by
  obtain ⟨program, hprogram⟩ := h
  by_cases hother : other = request
  · subst hother
    exact ⟨_, (turn_of_some traffic hprogram).2⟩
  · exact ⟨program, (turn_locals_of_ne hother).trans hprogram⟩

theorem Apart.of_turn (apart : traffic.Apart (traffic.turn state request)) :
    traffic.Apart state :=
  fun first second loaded other key hne hfirst hsecond =>
    apart first second loaded other key hne (hfirst.turn request) (hsecond.turn request)

theorem Touched.turn {key : Key} (touched : traffic.Touched state key) (request : ℕ) :
    traffic.Touched (traffic.turn state request) key := by
  obtain ⟨other, loaded, hloaded, htouches⟩ := touched
  exact ⟨other, loaded, hloaded.turn request, htouches⟩

theorem Derived.turn {key : Key} (derived : traffic.Derived state key) (request : ℕ) :
    traffic.Derived (traffic.turn state request) key := by
  rcases derived with ⟨other, loaded, hloaded, hderives⟩ | ⟨htrails, htouched⟩
  · exact .inl ⟨other, loaded, hloaded.turn request, hderives⟩
  · exact .inr ⟨htrails, htouched.turn request⟩

end Laws

/-! ## Submitted columns -/

/-- A column is still to be written as submitted, or has been so for good. -/
def Settling (store : Store) (request : ℕ) (serving : Serving Store Update Row) (key : Key) :
    Prop :=
  serving.program.Pending (fun update => traffic.lists update key)
      (fun update => traffic.puts update key serving.loaded)
      (fun update => traffic.puts update key
        (traffic.wish request serving.loaded)) ∨
    serving.program.Quiet (fun update => traffic.lists update key) ∧
      traffic.same key (traffic.row store) (traffic.wish request serving.loaded)

/-- What is known of a request while it runs. -/
structure Kept (store : Store) (request : ℕ) (serving : Serving Store Update Row) : Prop where
  clear : traffic.clear request serving.loaded
  carries : serving.program.Meets (fun _ => True)
    (fun update => ∀ key, traffic.lists update key →
      ¬traffic.submits request serving.loaded key →
        ¬traffic.derives request serving.loaded key → ¬traffic.trails key →
          traffic.puts update key serving.loaded)
    (fun _ => True)
  settling : ∀ key, traffic.submits request serving.loaded key →
    traffic.Settling store request serving key

/-- This is known of every request that has begun. -/
def Tidy (state : State Store Update Row) : Prop :=
  ∀ request serving, state.locals request = some serving →
    traffic.Kept state.shared request serving

section Laws

variable {traffic} {state : State Store Update Row} {request : ℕ} {store : Store}
variable {serving : Serving Store Update Row}

theorem Kept.load (lawful : traffic.Lawful) (clear : traffic.clear request (traffic.row store)) :
    traffic.Kept store request
      ⟨traffic.row store, traffic.serve request (traffic.row store)⟩ where
  clear := clear
  carries := by
    refine (lawful.carries clear False False.elim).mono (fun _ _ h => h.elim) ?_ fun _ _ => trivial
    intro update carries key hlists hsubmits hderives htrails
    exact carries key hlists hsubmits hderives (.inr htrails)
  settling := fun _ hsubmits => lawful.delivers clear hsubmits

/-- A request goes on with what is known of it. -/
theorem Kept.step (kept : traffic.Kept store request serving) :
    traffic.Kept (serving.program.step traffic.apply store).1 request
      ⟨serving.loaded, (serving.program.step traffic.apply store).2⟩ where
  clear := kept.clear
  carries := kept.carries.step traffic.apply trivial
  settling := by
    intro key hsubmits
    obtain ⟨loaded, program⟩ := serving
    rcases kept.settling key hsubmits with pending | ⟨quiet, hrow⟩
    · rcases pending.step traffic.apply store with later | ⟨update, next, rfl, hlists, hnew, hquiet⟩
      · exact .inl later
      · exact .inr ⟨hquiet, traffic.same_of_puts store hlists hnew⟩
    · refine .inr ⟨quiet.step traffic.apply store, ?_⟩
      cases quiet with
      | done _ => exact hrow
      | fail _ => exact hrow
      | read _ => exact hrow
      | write silent _ =>
        exact (traffic.equivalence key).trans (traffic.same_of_not_lists store silent) hrow

/-- The update of another request does no harm where it keeps the column or is overruled. -/
theorem Kept.other {after : Store} (kept : traffic.Kept store request serving)
    (hrow : ∀ key, traffic.submits request serving.loaded key →
      traffic.same key (traffic.row after) (traffic.row store) ∨
        serving.program.Owes fun update => traffic.lists update key) :
    traffic.Kept after request serving where
  clear := kept.clear
  carries := kept.carries
  settling := by
    intro key hsubmits
    have : Nonempty Store := ⟨store⟩
    rcases kept.settling key hsubmits with pending | ⟨quiet, hwish⟩
    · exact .inl pending
    · rcases hrow key hsubmits with hsame | howes
      · exact .inr ⟨quiet, (traffic.equivalence key).trans hsame hwish⟩
      · exact .inl (howes.pending quiet)

/-- An undisturbed turn keeps what is known of every request. -/
theorem Tidy.turn (lawful : traffic.Lawful) (tidy : traffic.Tidy state)
    (apart : traffic.Apart state) (undisturbed : traffic.Undisturbed state request) :
    traffic.Tidy (traffic.turn state request) := by
  intro other served hserved
  by_cases hother : other = request
  · subst hother
    cases hlocal : state.locals other with
    | none =>
      obtain ⟨hshared, hlocals⟩ := turn_of_none traffic hlocal
      obtain rfl := Option.some.inj (hlocals.symm.trans hserved)
      rw [hshared]
      simp only [Undisturbed, hlocal] at undisturbed
      exact Kept.load lawful undisturbed
    | some serving =>
      obtain ⟨hshared, hlocals⟩ := turn_of_some traffic hlocal
      obtain rfl := Option.some.inj (hlocals.symm.trans hserved)
      rw [hshared]
      exact (tidy other serving hlocal).step
  · rw [turn_locals_of_ne hother] at hserved
    apply (tidy other served hserved).other
    intro key hsubmits
    rcases row_turn traffic state request key with
      hsame | ⟨loaded, update, next, hlocal, hlists, hrow⟩
    · exact .inl hsame
    · simp only [Undisturbed, hlocal] at undisturbed
      obtain ⟨hderived, hloaded⟩ := undisturbed key other served hlists hother hserved hsubmits
      by_cases hderives : traffic.derives request loaded key
      · exact .inr (hderived hderives)
      · -- what the request carries in memory is what it has loaded, and that is still stored
        have hnot : ¬traffic.submits request loaded key :=
          apart other request served.loaded loaded key hother ⟨_, hserved⟩ ⟨_, hlocal⟩ hsubmits
        cases (tidy request _ hlocal).carries with
        | write carries _ =>
          have hvalues := carries key hlists hnot hderives (lawful.submits_not_trails hsubmits)
          have hequal := traffic.equivalence key
          exact .inl (hequal.trans (hrow loaded hvalues) (hloaded hderives))

/-! ## Columns that nobody derives -/

/-- As long as nobody touches the leading column, all rows agree on it. -/
structure Steady (traffic : Traffic Store Update Row Key) (origin : Row)
    (state : State Store Update Row) : Prop where
  row : traffic.same traffic.leader (traffic.row state.shared) origin
  loaded : ∀ request serving, state.locals request = some serving →
    traffic.same traffic.leader serving.loaded origin
  carries : ∀ request serving, state.locals request = some serving →
    serving.program.Meets
      (fun store => traffic.same traffic.leader (traffic.row store) serving.loaded)
      (fun update => ∀ key, traffic.lists update key →
        ¬traffic.submits request serving.loaded key →
          ¬traffic.derives request serving.loaded key →
            traffic.puts update key serving.loaded)
      (fun _ => True)

/-- A request has written this column as submitted, for good. -/
structure Written (traffic : Traffic Store Update Row Key) (key : Key) (request : ℕ)
    (loaded : Row) (state : State Store Update Row) : Prop where
  submits : traffic.submits request loaded key
  quiet : ∃ program, state.locals request = some ⟨loaded, program⟩ ∧
    program.Quiet fun update => traffic.lists update key
  row : traffic.same key (traffic.row state.shared) (traffic.wish request loaded)

/-- Nobody has written this column yet, or the one that submits it has done so. -/
inductive Phase (traffic : Traffic Store Update Row Key) (origin : Row) (key : Key)
    (state : State Store Update Row) : Prop
  | fresh (row : traffic.same key (traffic.row state.shared) origin)
      (loaded : ∀ request serving, state.locals request = some serving →
        traffic.same key serving.loaded origin)
  | written (request : ℕ) (loaded : Row) (written : Written traffic key request loaded state)

/-- A request loads what the others have loaded, as long as the row keeps the column. -/
theorem loaded_turn {origin : Row} {key : Key}
    (hrow : traffic.same key (traffic.row state.shared) origin)
    (hloaded : ∀ request serving, state.locals request = some serving →
      traffic.same key serving.loaded origin) {other : ℕ} {served : Serving Store Update Row}
    (hserved : (traffic.turn state request).locals other = some served) :
    traffic.same key served.loaded origin := by
  by_cases hother : other = request
  · subst hother
    cases hlocal : state.locals other with
    | none =>
      obtain rfl := Option.some.inj ((turn_of_none traffic hlocal).2.symm.trans hserved)
      exact hrow
    | some serving =>
      obtain rfl := Option.some.inj ((turn_of_some traffic hlocal).2.symm.trans hserved)
      exact hloaded other serving hlocal
  · rw [turn_locals_of_ne hother] at hserved
    exact hloaded other served hserved

theorem Steady.turn (lawful : traffic.Lawful) {origin : Row} (steady : Steady traffic origin state)
    (undisturbed : traffic.Undisturbed state request)
    (untouched : ¬traffic.Touched (traffic.turn state request) traffic.leader) :
    Steady traffic origin (traffic.turn state request) := by
  have hequal := traffic.equivalence traffic.leader
  have hfree : ∀ {loaded}, Loaded (traffic.turn state request) request loaded →
      ¬traffic.submits request loaded traffic.leader ∧
        ¬traffic.derives request loaded traffic.leader := fun hloaded =>
    ⟨fun hsubmits => untouched ⟨request, _, hloaded, .inl hsubmits⟩,
      fun hderives => untouched ⟨request, _, hloaded, .inr hderives⟩⟩
  refine ⟨?_, fun other served => loaded_turn steady.row steady.loaded, ?_⟩
  · rcases row_turn traffic state request traffic.leader with
      hsame | ⟨loaded, update, next, hlocal, hlists, hrow⟩
    · exact hequal.trans hsame steady.row
    · obtain ⟨hsubmits, hderives⟩ := hfree (Loaded.turn ⟨_, hlocal⟩ request)
      cases steady.carries request _ hlocal with
      | write carries _ =>
        have hvalues := carries traffic.leader hlists hsubmits hderives
        exact hequal.trans (hrow loaded hvalues) (steady.loaded request _ hlocal)
  · intro other served hserved
    by_cases hother : other = request
    · subst hother
      cases hlocal : state.locals other with
      | none =>
        have hlocals := (turn_of_none traffic hlocal).2
        obtain rfl := Option.some.inj (hlocals.symm.trans hserved)
        simp only [Undisturbed, hlocal] at undisturbed
        refine (lawful.carries undisturbed True fun _ => hfree ⟨_, hlocals⟩).mono ?_ ?_
          fun _ _ => trivial
        · intro store hstore _
          exact hstore
        · intro update carries key hlists hsubmits hderives
          exact carries key hlists hsubmits hderives (.inl trivial)
      | some serving =>
        obtain rfl := Option.some.inj ((turn_of_some traffic hlocal).2.symm.trans hserved)
        apply (steady.carries other serving hlocal).step
        exact hequal.trans steady.row (hequal.symm (steady.loaded other serving hlocal))
    · rw [turn_locals_of_ne hother] at hserved
      exact steady.carries other served hserved

/-- What an update puts into a column that its request neither submits nor derives. -/
theorem Tidy.carries (tidy : traffic.Tidy state) {origin : Row} {key : Key}
    (steady : traffic.trails key → Steady traffic origin state) {loaded : Row} {update : Update}
    {next : Program Store Update PUnit}
    (hlocal : state.locals request = some ⟨loaded, .write update next⟩)
    (hlists : traffic.lists update key) (hsubmits : ¬traffic.submits request loaded key)
    (hderives : ¬traffic.derives request loaded key) :
    traffic.puts update key loaded := by
  by_cases htrails : traffic.trails key
  · cases (steady htrails).carries request _ hlocal with
    | write carries _ => exact carries key hlists hsubmits hderives
  · cases (tidy request _ hlocal).carries with
    | write carries _ => exact carries key hlists hsubmits hderives htrails

/-- What has been written for good stays. -/
theorem Written.turn {origin : Row} {key : Key} {writer : ℕ} {wished : Row}
    (written : Written traffic key writer wished state) (tidy : traffic.Tidy state)
    (steady : traffic.trails key → Steady traffic origin state) (apart : traffic.Apart state)
    (undisturbed : traffic.Undisturbed state request)
    (underived : ¬traffic.Derived (traffic.turn state request) key) :
    Written traffic key writer wished (traffic.turn state request) := by
  have hequal := traffic.equivalence key
  obtain ⟨hsubmits, ⟨program, hprogram, hquiet⟩, hwish⟩ := written
  refine ⟨hsubmits, ?_, ?_⟩
  · by_cases hwriter : writer = request
    · subst hwriter
      exact ⟨_, (turn_of_some traffic hprogram).2, hquiet.step traffic.apply state.shared⟩
    · exact ⟨program, (turn_locals_of_ne hwriter).trans hprogram, hquiet⟩
  · rcases row_turn traffic state request key with
      hsame | ⟨loaded, update, next, hlocal, hlists, hrow⟩
    · exact hequal.trans hsame hwish
    · have hwriter : writer ≠ request := by
        rintro rfl
        obtain rfl := (Serving.mk.inj (Option.some.inj (hprogram.symm.trans hlocal))).2
        cases hquiet with
        | write silent _ => exact silent hlists
      have hderives : ¬traffic.derives request loaded key := fun hderives =>
        underived (.inl ⟨_, _, Loaded.turn ⟨_, hlocal⟩ request, hderives⟩)
      have hnot : ¬traffic.submits request loaded key :=
        apart writer request wished loaded key hwriter ⟨_, hprogram⟩ ⟨_, hlocal⟩ hsubmits
      have hvalues := tidy.carries steady hlocal hlists hnot hderives
      simp only [Undisturbed, hlocal] at undisturbed
      have hloaded := (undisturbed key writer _ hlists hwriter hprogram hsubmits).2 hderives
      exact hequal.trans (hrow loaded hvalues) (hequal.trans hloaded hwish)

/-- An undisturbed turn leaves a column that nobody derives in one of its two phases. -/
theorem Phase.turn {origin : Row} {key : Key} (phase : Phase traffic origin key state)
    (tidy : traffic.Tidy state) (steady : traffic.trails key → Steady traffic origin state)
    (apart : traffic.Apart state) (undisturbed : traffic.Undisturbed state request)
    (underived : ¬traffic.Derived (traffic.turn state request) key) :
    Phase traffic origin key (traffic.turn state request) := by
  have hequal := traffic.equivalence key
  cases phase with
  | written writer wished written =>
    exact .written writer wished (written.turn tidy steady apart undisturbed underived)
  | fresh row hloaded =>
    rcases row_turn traffic state request key with
      hsame | ⟨loaded, update, next, hlocal, hlists, hrow⟩
    · exact .fresh (hequal.trans hsame row) fun other served => loaded_turn row hloaded
    · have hderives : ¬traffic.derives request loaded key := fun hderives =>
        underived (.inl ⟨_, _, Loaded.turn ⟨_, hlocal⟩ request, hderives⟩)
      have hfresh : traffic.puts update key loaded →
          Phase traffic origin key (traffic.turn state request) := fun hvalues =>
        .fresh (hequal.trans (hrow loaded hvalues) (hloaded request _ hlocal))
          fun other served => loaded_turn row hloaded
      by_cases hsubmits : traffic.submits request loaded key
      · rcases (tidy request _ hlocal).settling key hsubmits with pending | ⟨quiet, -⟩
        · cases pending with
          | skip old _ => exact hfresh (old hlists)
          | last _ hnew quiet =>
            exact .written request loaded
              ⟨hsubmits, ⟨next, (turn_of_some traffic hlocal).2, quiet⟩, hrow _ hnew⟩
        · cases quiet with
          | write silent _ => exact absurd hlists silent
      · exact hfresh (tidy.carries steady hlocal hlists hsubmits hderives)

/-! ## Runs -/

theorem run_locals_of_notMem {schedule : List ℕ} (hrequest : request ∉ schedule) :
    (run traffic.turn state schedule).locals request = state.locals request := by
  induction schedule generalizing state with
  | nil => rfl
  | cons first rest ih =>
    rw [List.mem_cons, not_or] at hrequest
    rw [run_cons, ih hrequest.2, turn_locals_of_ne hrequest.1]

theorem Apart.of_run {schedule : List ℕ} (apart : traffic.Apart (run traffic.turn state schedule)) :
    traffic.Apart state := by
  induction schedule generalizing state with
  | nil => exact apart
  | cons request rest ih => exact (ih apart).of_turn

theorem Derived.run {key : Key} (derived : traffic.Derived state key) (schedule : List ℕ) :
    traffic.Derived (run traffic.turn state schedule) key := by
  induction schedule generalizing state with
  | nil => exact derived
  | cons request rest ih => exact ih (derived.turn request)

/-- What is known of the requests, and of a column, in the course of a run. -/
structure Course (traffic : Traffic Store Update Row Key) (origin : Row) (key : Key)
    (state : State Store Update Row) : Prop where
  tidy : traffic.Tidy state
  phase : Phase traffic origin key state
  steady : traffic.trails key → Steady traffic origin state

theorem start_locals (store : Store) (request : ℕ) (serving : Serving Store Update Row) :
    (start store).locals request ≠ some serving := by
  intro h
  cases h

/-- A request that has loaded the row has had a turn. -/
theorem Loaded.mem_schedule (schedule : List ℕ) {loaded : Row}
    (h : Loaded (run traffic.turn (start store) schedule) request loaded) : request ∈ schedule := by
  by_contra hrequest
  obtain ⟨program, hprogram⟩ := h
  rw [run_locals_of_notMem hrequest] at hprogram
  exact start_locals store request _ hprogram

theorem tidy_start (store : Store) : traffic.Tidy (start store : State Store Update Row) :=
  fun _ _ h => absurd h (start_locals store _ _)

theorem course_start (store : Store) (key : Key) :
    Course traffic (traffic.row store) key (start store : State Store Update Row) where
  tidy := tidy_start store
  phase := .fresh ((traffic.equivalence key).refl _) fun _ _ h => absurd h (start_locals store _ _)
  steady := fun _ =>
    { row := (traffic.equivalence traffic.leader).refl _
      loaded := fun _ _ h => absurd h (start_locals store _ _)
      carries := fun _ _ h => absurd h (start_locals store _ _) }

theorem Tidy.run (lawful : traffic.Lawful) (tidy : traffic.Tidy state) {schedule : List ℕ}
    (undisturbed : Every traffic.turn traffic.Undisturbed state schedule)
    (apart : traffic.Apart (Support.run traffic.turn state schedule)) :
    traffic.Tidy (Support.run traffic.turn state schedule) := by
  induction schedule generalizing state with
  | nil => exact tidy
  | cons request rest ih =>
    exact ih (tidy.turn lawful apart.of_run undisturbed.1) undisturbed.2 apart

theorem Course.turn (lawful : traffic.Lawful) {origin : Row} {key : Key}
    (course : Course traffic origin key state) (apart : traffic.Apart state)
    (undisturbed : traffic.Undisturbed state request)
    (underived : ¬traffic.Derived (traffic.turn state request) key) :
    Course traffic origin key (traffic.turn state request) where
  tidy := course.tidy.turn lawful apart undisturbed
  phase := course.phase.turn course.tidy course.steady apart undisturbed underived
  steady := fun htrails => (course.steady htrails).turn lawful undisturbed
    fun touched => underived (.inr ⟨htrails, touched⟩)

theorem Course.run (lawful : traffic.Lawful) {origin : Row} {key : Key}
    (course : Course traffic origin key state) {schedule : List ℕ}
    (undisturbed : Every traffic.turn traffic.Undisturbed state schedule)
    (apart : traffic.Apart (Support.run traffic.turn state schedule))
    (underived : ¬traffic.Derived (Support.run traffic.turn state schedule) key) :
    Course traffic origin key (Support.run traffic.turn state schedule) := by
  induction schedule generalizing state with
  | nil => exact course
  | cons request rest ih =>
    have hrest : ¬traffic.Derived (traffic.turn state request) key := fun derived =>
      underived (derived.run rest)
    have hapart : traffic.Apart (traffic.turn state request) := Apart.of_run apart
    exact ih (course.turn lawful hapart.of_turn undisturbed.1 hrest) undisturbed.2 apart
      underived

/-- What has been written for good stays in the course of a run. -/
theorem Written.run (lawful : traffic.Lawful) {origin : Row} {key : Key} {writer : ℕ}
    {wished : Row} (written : Written traffic key writer wished state)
    (course : Course traffic origin key state) {schedule : List ℕ}
    (undisturbed : Every traffic.turn traffic.Undisturbed state schedule)
    (apart : traffic.Apart (Support.run traffic.turn state schedule))
    (underived : ¬traffic.Derived (Support.run traffic.turn state schedule) key) :
    Written traffic key writer wished (Support.run traffic.turn state schedule) := by
  induction schedule generalizing state with
  | nil => exact written
  | cons request rest ih =>
    have hrest : ¬traffic.Derived (traffic.turn state request) key := fun derived =>
      underived (derived.run rest)
    have hapart : traffic.Apart (traffic.turn state request) := Apart.of_run apart
    exact ih (written.turn course.tidy course.steady hapart.of_turn undisturbed.1 hrest)
      (course.turn lawful hapart.of_turn undisturbed.1 hrest) undisturbed.2 apart underived

/-- In an undisturbed run, what a successful request submits is in the row in the end. -/
theorem row_of_succeeded (lawful : traffic.Lawful) {schedule : List ℕ}
    (undisturbed : Every traffic.turn traffic.Undisturbed (start store) schedule)
    (apart : traffic.Apart (Support.run traffic.turn (start store) schedule)) {loaded : Row}
    (succeeded : Succeeded (Support.run traffic.turn (start store) schedule) request loaded)
    {key : Key} (submits : traffic.submits request loaded key) :
    traffic.same key (traffic.row (Support.run traffic.turn (start store) schedule).shared)
      (traffic.wish request loaded) := by
  have tidy := (tidy_start store).run lawful undisturbed apart
  rcases (tidy request _ succeeded).settling key submits with pending | ⟨-, hrow⟩
  · cases pending
  · exact hrow

/-- In an undisturbed run, no column returns to an older value unless somebody derives it. -/
theorem not_returns (lawful : traffic.Lawful) {schedule : List ℕ}
    (undisturbed : Every traffic.turn traffic.Undisturbed (start store) schedule)
    (apart : traffic.Apart (Support.run traffic.turn (start store) schedule)) {key : Key}
    (underived : ¬traffic.Derived (Support.run traffic.turn (start store) schedule) key) :
    ¬traffic.Returns key (start store) schedule := by
  have hequal := traffic.equivalence key
  rintro ⟨first, second, third, rest, rfl, hafter, hbetween⟩
  have hthird := undisturbed.first
  have hsecond := hthird.first
  have hapart : traffic.Apart
      (Support.run traffic.turn (start store) (first ++ second ++ third)) := by
    rw [run_append] at apart
    exact apart.of_run
  have hunderived : ¬traffic.Derived
      (Support.run traffic.turn (start store) (first ++ second ++ third)) key := by
    intro derived
    rw [run_append] at underived
    exact underived (derived.run rest)
  have hcourse : Course traffic (traffic.row store) key
      (Support.run traffic.turn (start store) (first ++ second)) := by
    rw [run_append] at hapart hunderived
    exact (course_start store key).run lawful hsecond hapart.of_run
      fun derived => hunderived (derived.run third)
  have hfirst : Course traffic (traffic.row store) key
      (Support.run traffic.turn (start store) first) := by
    rw [List.append_assoc, run_append] at hapart hunderived
    exact (course_start store key).run lawful hsecond.first hapart.of_run
      fun derived => hunderived (derived.run (second ++ third))
  cases hfirst.phase with
  | written writer wished written =>
    have hstays := written.run lawful hfirst hsecond.rest
      (by rw [run_append, run_append] at hapart; exact hapart.of_run)
      (by
        rw [run_append, run_append] at hunderived
        exact fun derived => hunderived (derived.run third))
    rw [← run_append] at hstays
    exact hbetween (hequal.trans written.row (hequal.symm hstays.row))
  | fresh hold _ =>
    cases hcourse.phase with
    | fresh hold' _ => exact hbetween (hequal.trans hold (hequal.symm hold'))
    | written writer wished written =>
      have hstays := written.run lawful hcourse hthird.rest
        (by rw [← run_append]; exact hapart) (by rw [← run_append]; exact hunderived)
      rw [← run_append] at hstays
      exact hbetween (hequal.trans hafter
        (hequal.trans hstays.row (hequal.symm written.row)))

end Laws

end Traffic

end Kanzan.Support

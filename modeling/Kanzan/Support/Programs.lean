import Kanzan.Support.Processes

/-!
# Programs on a shared store

A program touches a shared store by single reads and single updates, so that the steps of
other programs may come in between.  `Meets` says what holds of its updates and of its
result whatever it reads, `Owes` that an update of some kind is still to come, and
`Pending` that this update is the one which settles a matter.
-/

namespace Kanzan.Support

universe u

/-- A program that reads and updates a store, and returns or fails in the end. -/
inductive Program (Store Update Result : Type u)
  | done (result : Result)
  | fail (message : String)
  | read (next : Store → Program Store Update Result)
  | write (update : Update) (next : Program Store Update Result)

namespace Program

variable {Store Update Result Final : Type u}

/-- Go on with the result; a failure ends the whole. -/
def bind : Program Store Update Result → (Result → Program Store Update Final) →
    Program Store Update Final
  | done result, rest => rest result
  | fail message, _ => fail message
  | read next, rest => read fun store => (next store).bind rest
  | write update next, rest => write update (next.bind rest)

instance : Monad (Program Store Update) where
  pure := done
  bind := bind

/-- The store as it stands. -/
def stored : Program Store Update Store := read done

/-- A single update. -/
def perform (update : Update) : Program Store Update PUnit := write update (done ⟨⟩)

/-- A computation without the store that may raise. -/
def ofExcept : Except String Result → Program Store Update Result
  | .ok result => done result
  | .error message => fail message

/-- One step of a program. -/
def step (apply : Update → Store → Store) (store : Store) :
    Program Store Update Result → Store × Program Store Update Result
  | done result => (store, done result)
  | fail message => (store, fail message)
  | read next => (store, next store)
  | write update next => (apply update store, next)

/-- A program that nothing comes in between of. -/
def alone (apply : Update → Store → Store) :
    Program Store Update Result → Store → Except String Result × Store
  | done result, store => (.ok result, store)
  | fail message, store => (.error message, store)
  | read next, store => (next store).alone apply store
  | write update next, store => next.alone apply (apply update store)

/-- A program on a part of a store, as a program on the whole. -/
def embed {Whole Act : Type u} (part : Whole → Store) (act : Update → Act) :
    Program Store Update Result → Program Whole Act Result
  | done result => done result
  | fail message => fail message
  | read next => read fun whole => (next (part whole)).embed part act
  | write update next => write (act update) (next.embed part act)

/-! ## What holds of the updates -/

/--
Every update is as told and so is the result, whatever the program reads among the stores
that are as told.
-/
inductive Meets (Reads : Store → Prop) (Writes : Update → Prop) (Returns : Result → Prop) :
    Program Store Update Result → Prop
  | done {result : Result} (returns : Returns result) : Meets Reads Writes Returns (done result)
  | fail (message : String) : Meets Reads Writes Returns (fail message)
  | read {next : Store → Program Store Update Result}
      (rest : ∀ store, Reads store → Meets Reads Writes Returns (next store)) :
      Meets Reads Writes Returns (read next)
  | write {update : Update} {next : Program Store Update Result} (writes : Writes update)
      (rest : Meets Reads Writes Returns next) : Meets Reads Writes Returns (write update next)

/-- No update of this kind is to come. -/
def Quiet (Kind : Update → Prop) (program : Program Store Update Result) : Prop :=
  program.Meets (fun _ => True) (fun update => ¬Kind update) (fun _ => True)

/-- An update of this kind is to come, unless the program fails. -/
inductive Owes (Kind : Update → Prop) : Program Store Update Result → Prop
  | fail (message : String) : Owes Kind (fail message)
  | read {next : Store → Program Store Update Result} (rest : ∀ store, Owes Kind (next store)) :
      Owes Kind (read next)
  | now {update : Update} {next : Program Store Update Result} (kind : Kind update) :
      Owes Kind (write update next)
  | later {update : Update} {next : Program Store Update Result} (rest : Owes Kind next) :
      Owes Kind (write update next)

/--
The last update of this kind is to come and is new; those before it write what is old.
-/
inductive Pending (Kind Old New : Update → Prop) : Program Store Update Result → Prop
  | fail (message : String) : Pending Kind Old New (fail message)
  | read {next : Store → Program Store Update Result}
      (rest : ∀ store, Pending Kind Old New (next store)) : Pending Kind Old New (read next)
  | last {update : Update} {next : Program Store Update Result} (kind : Kind update)
      (new : New update) (quiet : next.Quiet Kind) : Pending Kind Old New (write update next)
  | skip {update : Update} {next : Program Store Update Result} (old : Kind update → Old update)
      (rest : Pending Kind Old New next) : Pending Kind Old New (write update next)

section Laws

variable {Reads : Store → Prop} {Writes Kind Old New : Update → Prop}
variable {Returns : Result → Prop} {Ends : Final → Prop}
variable {program : Program Store Update Result} {rest : Result → Program Store Update Final}

@[simp]
theorem bind_eq (program : Program Store Update Result)
    (rest : Result → Program Store Update Final) : program >>= rest = program.bind rest := rfl

@[simp]
theorem pure_eq (result : Result) : (pure result : Program Store Update Result) = done result :=
  rfl

@[simp]
theorem stored_bind (rest : Store → Program Store Update Final) :
    (stored : Program Store Update Store).bind rest = read rest := rfl

@[simp]
theorem perform_bind (update : Update) (rest : PUnit → Program Store Update Final) :
    (perform update : Program Store Update PUnit).bind rest = write update (rest ⟨⟩) := rfl

@[simp]
theorem done_bind (result : Result) (rest : Result → Program Store Update Final) :
    (done result : Program Store Update Result).bind rest = rest result := rfl

theorem Meets.mono {Reads' : Store → Prop} {Writes' : Update → Prop} {Returns' : Result → Prop}
    (meets : program.Meets Reads Writes Returns) (hreads : ∀ store, Reads' store → Reads store)
    (hwrites : ∀ update, Writes update → Writes' update)
    (hreturns : ∀ result, Returns result → Returns' result) :
    program.Meets Reads' Writes' Returns' := by
  induction meets with
  | done returns => exact .done (hreturns _ returns)
  | fail message => exact .fail message
  | read _ ih => exact .read fun store reads => ih store (hreads store reads)
  | write writes _ ih => exact .write (hwrites _ writes) ih

/-- What holds of both halves of a program holds of the whole. -/
theorem Meets.bind (meets : program.Meets Reads Writes Returns)
    (hrest : ∀ result, Returns result → (rest result).Meets Reads Writes Ends) :
    (program.bind rest).Meets Reads Writes Ends := by
  induction meets with
  | done returns => exact hrest _ returns
  | fail message => exact .fail message
  | read _ ih => exact .read ih
  | write writes _ ih => exact .write writes ih

theorem Meets.and {Writes' : Update → Prop} {Returns' : Result → Prop}
    (first : program.Meets Reads Writes Returns) (second : program.Meets Reads Writes' Returns') :
    program.Meets Reads (fun update => Writes update ∧ Writes' update)
      (fun result => Returns result ∧ Returns' result) := by
  induction first with
  | done returns =>
    cases second with
    | done returns' => exact .done ⟨returns, returns'⟩
  | fail message => exact .fail message
  | read _ ih =>
    cases second with
    | read rest' => exact .read fun store reads => ih store reads (rest' store reads)
  | write writes _ ih =>
    cases second with
    | write writes' rest' => exact .write ⟨writes, writes'⟩ (ih rest')

/-- Nothing is told of a program without a condition. -/
theorem meets_true (program : Program Store Update Result) :
    program.Meets Reads (fun _ => True) (fun _ => True) := by
  induction program with
  | done result => exact .done trivial
  | fail message => exact .fail message
  | read next ih => exact .read fun store _ => ih store
  | write update next ih => exact .write trivial ih

theorem meets_ofExcept {result : Except String Result} (hok : ∀ value, result = .ok value →
    Returns value) : (ofExcept result : Program Store Update Result).Meets Reads Writes Returns := by
  cases result with
  | error message => exact .fail message
  | ok value => exact .done (hok value rfl)

theorem Quiet.bind_of_meets (quiet : program.Quiet Kind)
    (meets : program.Meets (fun _ => True) Writes Returns)
    (hrest : ∀ result, Returns result → (rest result).Quiet Kind) :
    (program.bind rest).Quiet Kind := by
  have hboth := Meets.and quiet meets
  exact Meets.bind (hboth.mono (fun _ h => h) (fun _ h => h.1) fun _ h => h.2) hrest

theorem Pending.mono {Old' New' : Update → Prop} (pending : program.Pending Kind Old New)
    (hold : ∀ update, Old update → Old' update) (hnew : ∀ update, New update → New' update) :
    program.Pending Kind Old' New' := by
  induction pending with
  | fail message => exact .fail message
  | read _ ih => exact .read ih
  | last kind new quiet => exact .last kind (hnew _ new) quiet
  | skip old _ ih => exact .skip (fun kind => hold _ (old kind)) ih

/-- What is settled in the first half of a program stays settled. -/
theorem Pending.bind_left (pending : program.Pending Kind Old New)
    (meets : program.Meets (fun _ => True) Writes Returns)
    (hrest : ∀ result, Returns result → (rest result).Quiet Kind) :
    (program.bind rest).Pending Kind Old New := by
  induction pending with
  | fail message => exact .fail message
  | read _ ih =>
    cases meets with
    | read hnext => exact .read fun store => ih store (hnext store trivial)
  | last kind new quiet =>
    cases meets with
    | write _ hnext => exact .last kind new (quiet.bind_of_meets hnext hrest)
  | skip old _ ih =>
    cases meets with
    | write _ hnext => exact .skip old (ih hnext)

/-- What the first half leaves open is settled by the second. -/
theorem Pending.bind_right
    (meets : program.Meets (fun _ => True) (fun update => Kind update → Old update) Returns)
    (hrest : ∀ result, Returns result → (rest result).Pending Kind Old New) :
    (program.bind rest).Pending Kind Old New := by
  induction meets with
  | done returns => exact hrest _ returns
  | fail message => exact .fail message
  | read _ ih => exact .read fun store => ih store trivial
  | write writes _ ih => exact .skip writes ih

/-- A quiet program owes an update only if it fails. -/
theorem Owes.pending [Nonempty Store] (owes : program.Owes Kind) (quiet : program.Quiet Kind) :
    program.Pending Kind Old New := by
  induction owes with
  | fail message => exact .fail message
  | read _ ih =>
    cases quiet with
    | read hrest => exact .read fun store => ih store (hrest store trivial)
  | now kind =>
    cases quiet with
    | write silent _ => exact absurd kind silent
  | later _ ih =>
    cases quiet with
    | write silent hrest => exact .skip (fun kind => absurd kind silent) (ih hrest)

theorem Meets.step (apply : Update → Store → Store) (meets : program.Meets Reads Writes Returns)
    {store : Store} (reads : Reads store) :
    (program.step apply store).2.Meets Reads Writes Returns := by
  cases meets with
  | done returns => exact .done returns
  | fail message => exact .fail message
  | read rest => exact rest store reads
  | write _ rest => exact rest

theorem Quiet.step (apply : Update → Store → Store) (quiet : program.Quiet Kind) (store : Store) :
    (program.step apply store).2.Quiet Kind :=
  Meets.step apply quiet trivial

/-- A step either leaves the matter pending or is the update that settles it. -/
theorem Pending.step (apply : Update → Store → Store) (pending : program.Pending Kind Old New)
    (store : Store) :
    (program.step apply store).2.Pending Kind Old New ∨
      ∃ update next, program = .write update next ∧ Kind update ∧ New update ∧
        next.Quiet Kind := by
  cases pending with
  | fail message => exact .inl (.fail message)
  | read rest => exact .inl (rest store)
  | last kind new quiet => exact .inr ⟨_, _, rfl, kind, new, quiet⟩
  | skip _ rest => exact .inl rest

end Laws

end Program

end Kanzan.Support

import Mathlib.Data.List.Basic

/-!
# Runs of a step function

A system is a total step function on states.  `run` executes a list of events,
`Every` says that each event of a run is admitted in the state it meets, and
`Always` says that each visited state is good.  Invariants are transported once
here, so a system only ever proves facts about a single step.
-/

namespace Kanzan.Support

universe u v

variable {State : Type u} {Event : Type v}

/-- The state reached by executing the events from left to right. -/
def run (step : State → Event → State) : State → List Event → State
  | start, [] => start
  | start, event :: rest => run step (step start event) rest

/-- Every event of the run is admitted in the state in which it is executed. -/
def Every (step : State → Event → State) (Admits : State → Event → Prop) :
    State → List Event → Prop
  | _, [] => True
  | start, event :: rest =>
    Admits start event ∧ Every step Admits (step start event) rest

/-- Every state visited by the run, both ends included, is good. -/
def Always (step : State → Event → State) (Good : State → Prop) :
    State → List Event → Prop
  | start, [] => Good start
  | start, event :: rest => Good start ∧ Always step Good (step start event) rest

/-- Some event of the run was good in the state in which it was executed. -/
def Occurred (step : State → Event → State) (Good : State → Event → Prop) (start : State)
    (events : List Event) : Prop :=
  ∃ first event rest, events = first ++ event :: rest ∧ Good (run step start first) event

instance Every.decidable (step : State → Event → State) (Admits : State → Event → Prop)
    [∀ state event, Decidable (Admits state event)] (start : State) (events : List Event) :
    Decidable (Every step Admits start events) :=
  match events with
  | [] => isTrue trivial
  | event :: rest =>
    @instDecidableAnd _ _ _ (Every.decidable step Admits (step start event) rest)

section Laws

variable {step : State → Event → State} {Admits : State → Event → Prop}
variable {Good Inv : State → Prop}

@[simp]
theorem run_nil (start : State) : run step start [] = start := rfl

@[simp]
theorem run_cons (start : State) (event : Event) (rest : List Event) :
    run step start (event :: rest) = run step (step start event) rest := rfl

/-- A run is the fold of its events. -/
theorem run_eq_foldl (start : State) (events : List Event) :
    run step start events = events.foldl step start := by
  induction events generalizing start with
  | nil => rfl
  | cons event rest ih => exact ih (step start event)

theorem run_append (start : State) (first second : List Event) :
    run step start (first ++ second) = run step (run step start first) second := by
  induction first generalizing start with
  | nil => rfl
  | cons event rest ih => exact ih (step start event)

theorem run_snoc (start : State) (events : List Event) (event : Event) :
    run step start (events ++ [event]) = step (run step start events) event :=
  run_append start events [event]

theorem Occurred.last {Good : State → Event → Prop} {start : State} {events : List Event}
    {event : Event} (good : Good (run step start events) event) :
    Occurred step Good start (events ++ [event]) :=
  ⟨events, event, [], rfl, good⟩

/-- What has occurred stays so. -/
theorem Occurred.snoc {Good : State → Event → Prop} {start : State} {events : List Event}
    (occurred : Occurred step Good start events) (later : Event) :
    Occurred step Good start (events ++ [later]) := by
  obtain ⟨first, event, rest, rfl, good⟩ := occurred
  exact ⟨first, event, rest ++ [later], List.append_assoc first (event :: rest) [later], good⟩

/-- What admits every event in every state admits every run. -/
theorem every_of_forall (admits : ∀ state event, Admits state event) (start : State)
    (events : List Event) : Every step Admits start events := by
  induction events generalizing start with
  | nil => trivial
  | cons event rest ih => exact ⟨admits start event, ih (step start event)⟩

/-- A weaker condition admits more runs. -/
theorem Every.mono {Admits' : State → Event → Prop}
    (weaker : ∀ state event, Admits state event → Admits' state event) {start : State}
    {events : List Event} (admitted : Every step Admits start events) :
    Every step Admits' start events := by
  induction events generalizing start with
  | nil => trivial
  | cons event rest ih => exact ⟨weaker start event admitted.1, ih admitted.2⟩

/-- The beginning of an admitted run is admitted. -/
theorem Every.first {start : State} {first rest : List Event}
    (admitted : Every step Admits start (first ++ rest)) : Every step Admits start first := by
  induction first generalizing start with
  | nil => trivial
  | cons event first ih => exact ⟨admitted.1, ih admitted.2⟩

/-- The rest of an admitted run is admitted where it begins. -/
theorem Every.rest {start : State} {first rest : List Event}
    (admitted : Every step Admits start (first ++ rest)) :
    Every step Admits (run step start first) rest := by
  induction first generalizing start with
  | nil => exact admitted
  | cons event first ih => exact ih admitted.2

section Watched

universe w

variable {Watched : Type w} {watch : Watched → Event → Watched} {view : Watched → State}

/-- What is written down beside a run does not change it. -/
theorem run_view (hview : ∀ watched event, view (watch watched event) = step (view watched) event)
    (start : Watched) (events : List Event) :
    view (run watch start events) = run step (view start) events := by
  induction events generalizing start with
  | nil => rfl
  | cons event rest ih => rw [run_cons, run_cons, ih, hview]

theorem Every.watched
    (hview : ∀ watched event, view (watch watched event) = step (view watched) event)
    (start : Watched) {events : List Event} (admitted : Every step Admits (view start) events) :
    Every watch (fun watched event => Admits (view watched) event) start events := by
  induction events generalizing start with
  | nil => trivial
  | cons event rest ih =>
    refine ⟨admitted.1, ih _ ?_⟩
    rw [hview]
    exact admitted.2

end Watched

variable (Inv) in
/-- A step-preserved invariant holds at the end of every admitted run. -/
theorem run_invariant (preserved : ∀ state event, Inv state → Admits state event →
      Inv (step state event))
    {start : State} (initial : Inv start) (events : List Event)
    (admitted : Every step Admits start events) : Inv (run step start events) := by
  induction events generalizing start with
  | nil => exact initial
  | cons event rest ih =>
    exact ih (preserved start event initial admitted.1) admitted.2

variable (Inv) in
/-- A step-preserved invariant that entails goodness makes every visited state good. -/
theorem always_of_invariant (entails : ∀ state, Inv state → Good state)
    (preserved : ∀ state event, Inv state → Admits state event → Inv (step state event))
    {start : State} (initial : Inv start) (events : List Event)
    (admitted : Every step Admits start events) : Always step Good start events := by
  induction events generalizing start with
  | nil => exact entails start initial
  | cons event rest ih =>
    exact ⟨entails start initial,
      ih (preserved start event initial admitted.1) admitted.2⟩

variable (Inv) in
/-- What an invariant makes each admitted event satisfy, every event of a run satisfies. -/
theorem every_of_invariant {Sound : State → Event → Prop}
    (entails : ∀ state event, Inv state → Admits state event → Sound state event)
    (preserved : ∀ state event, Inv state → Admits state event → Inv (step state event))
    {start : State} (initial : Inv start) (events : List Event)
    (admitted : Every step Admits start events) : Every step Sound start events := by
  induction events generalizing start with
  | nil => trivial
  | cons event rest ih =>
    exact ⟨entails start event initial admitted.1,
      ih (preserved start event initial admitted.1) admitted.2⟩

theorem Always.start {start : State} {events : List Event}
    (always : Always step Good start events) : Good start := by
  cases events with
  | nil => exact always
  | cons event rest => exact always.1

/-- The last state of a run that is always good is good. -/
theorem Always.finish {start : State} {events : List Event}
    (always : Always step Good start events) : Good (run step start events) := by
  induction events generalizing start with
  | nil => exact always
  | cons event rest ih => exact ih always.2

/--
When, from an invariant state, a step lands in a good state exactly if it was
admitted, a whole run stays good exactly if all of its steps were admitted.
-/
theorem always_iff_every (entails : ∀ state, Inv state → Good state)
    (preserved : ∀ state event, Inv state → Admits state event → Inv (step state event))
    (exact_step : ∀ state event, Inv state → Good (step state event) → Admits state event)
    {start : State} (initial : Inv start) (events : List Event) :
    Always step Good start events ↔ Every step Admits start events := by
  constructor
  · intro always
    induction events generalizing start with
    | nil => trivial
    | cons event rest ih =>
      have admitted := exact_step start event initial always.2.start
      exact ⟨admitted, ih (preserved start event initial admitted) always.2⟩
  · exact always_of_invariant Inv entails preserved initial events

/-- The same for runs that stay good and whose steps are sound. -/
theorem always_and_every_iff {Sound : State → Event → Prop}
    (entails : ∀ state, Inv state → Good state)
    (preserved : ∀ state event, Inv state → Admits state event → Inv (step state event))
    (exact_step : ∀ state event, Inv state →
      (Good (step state event) ∧ Sound state event ↔ Admits state event))
    {start : State} (initial : Inv start) (events : List Event) :
    Always step Good start events ∧ Every step Sound start events ↔
      Every step Admits start events := by
  constructor
  · rintro ⟨always, sound⟩
    induction events generalizing start with
    | nil => trivial
    | cons event rest ih =>
      have admitted := (exact_step start event initial).mp ⟨always.2.start, sound.1⟩
      exact ⟨admitted, ih (preserved start event initial admitted) always.2 sound.2⟩
  · intro admitted
    exact ⟨always_of_invariant Inv entails preserved initial events admitted,
      every_of_invariant Inv (fun state event inv admits =>
        ((exact_step state event inv).mpr admits).2) preserved initial events admitted⟩

/-- When, from an invariant state, a step is sound exactly if it was admitted, so is a run. -/
theorem every_iff_every {Sound : State → Event → Prop}
    (preserved : ∀ state event, Inv state → Admits state event → Inv (step state event))
    (exact_step : ∀ state event, Inv state → (Sound state event ↔ Admits state event))
    {start : State} (initial : Inv start) (events : List Event) :
    Every step Sound start events ↔ Every step Admits start events := by
  constructor
  · intro sound
    induction events generalizing start with
    | nil => trivial
    | cons event rest ih =>
      have admitted := (exact_step start event initial).mp sound.1
      exact ⟨admitted, ih (preserved start event initial admitted) sound.2⟩
  · exact every_of_invariant Inv (fun state event inv => (exact_step state event inv).mpr)
      preserved initial events

/-- Where every event meets a condition under which two others are equivalent, so are they of the
run. -/
theorem Every.congr {Sound Meets : State → Event → Prop}
    (hiff : ∀ state event, Meets state event → (Sound state event ↔ Admits state event))
    {start : State} {events : List Event} (meets : Every step Meets start events) :
    Every step Sound start events ↔ Every step Admits start events := by
  induction events generalizing start with
  | nil => exact Iff.rfl
  | cons event rest ih => exact and_congr (hiff start event meets.1) (ih meets.2)

end Laws

end Kanzan.Support

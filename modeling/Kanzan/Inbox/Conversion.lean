import Kanzan.Inbox.Lifecycle

/-!
# One ticket for an email

When an email is converted once, however often the conversion is called and whatever the
other services do in between.
-/

namespace Kanzan.Inbox

open Sla Support Agents Tickets

/-! ## The property and its condition -/

/-- The emails from which the conversions of a history have created tickets. -/
def convertedEmails (conversions : List Conversion) : List ℕ :=
  (conversions.filter Conversion.created).map Conversion.hubEmail

/-- One ticket at most was created from an email, and all its conversions have returned it. -/
structure ConvertsOnce (conversions : List Conversion) : Prop where
  created : (convertedEmails conversions).Nodup
  returned : ∀ conversion ∈ conversions, ∃ origin ∈ conversions, origin.created = true ∧
    origin.hubEmail = conversion.hubEmail ∧ origin.ticket = conversion.ticket

def opening (db : HubDb) (locals : ℕ → Errand) : World HubRun Errand where
  shared := { db := { db with emails := fun _ => none, emailIds := [] } }
  locals

/-- A conversion that could create a ticket finds an email without one, or a terminal email. -/
def Unspent (hub : Hub) (world : World HubRun Errand) (event : ℕ × Action) : Prop :=
  ∀ id he req creator overrides row, world.locals event.1 = .holding id he →
    event.2 = .call req (.convert creator overrides) → world.shared.db.emails id = some row →
      canCreateFromEmail hub.workspace overrides world.shared.db.tickets = true →
        row.convertedTicket.isSome = true → row.state.terminal = true

/-! ## The invariant -/

/-- The history and the rows tell the same. -/
structure Recorded (run : HubRun) : Prop where
  once : (convertedEmails run.conversions).Nodup
  stored : ∀ conversion ∈ run.conversions, (run.db.tickets.tickets conversion.ticket).isSome = true
  known : ∀ conversion ∈ run.conversions, ∃ row,
    run.db.emails conversion.hubEmail = some row ∧ row.convertedTicket = some conversion.ticket
  origin : ∀ id row ticket, run.db.emails id = some row → row.convertedTicket = some ticket →
    { hubEmail := id, ticket, created := true } ∈ run.conversions

theorem Recorded.convertsOnce {run : HubRun} (recorded : Recorded run) :
    ConvertsOnce run.conversions where
  created := recorded.once
  returned conversion hmem := by
    obtain ⟨row, hrow, hticket⟩ := recorded.known conversion hmem
    exact ⟨_, recorded.origin _ row _ hrow hticket, rfl, rfl, rfl⟩

theorem opening_recorded (db : HubDb) (locals : ℕ → Errand) :
    Recorded (opening db locals).shared where
  once := List.nodup_nil
  stored _ hmem := absurd hmem List.not_mem_nil
  known _ hmem := absurd hmem List.not_mem_nil
  origin _ _ _ hrow := absurd hrow (Option.some_ne_none _).symm

variable {id : ℕ} {action : Action} {row he : HubEmail} {world : World HubRun Errand}
variable {event : ℕ × Action}

section Turns

variable {hub : Hub} {req : Request} {run : HubRun} {errand : Errand} {s s' : HubSession}

theorem callService_tickets {service : Service} {conversions : List Conversion}
    (hother : service.converts = false)
    (success : callService hub req s service = .ok (s', conversions)) :
    s'.db.tickets = s.db.tickets ∧ conversions = [] := by
  cases service with
  | route decision =>
    obtain ⟨rfl, rfl⟩ := Prod.mk.inj (Except.ok.inj success)
    exact ⟨rfl, rfl⟩
  | initializeSla =>
    obtain ⟨rfl, rfl⟩ := Prod.mk.inj (Except.ok.inj success)
    unfold initializeHubSla
    split <;> exact ⟨rfl, rfl⟩
  | assignTo user reason requireOnline =>
    obtain ⟨rfl, rfl⟩ := Prod.mk.inj (Except.ok.inj success)
    refine ⟨?_, rfl⟩
    cases hassigned : assignTo hub req s.id user reason requireOnline s.db with
    | none => rfl
    | some db =>
      obtain ⟨-, -, rfl⟩ := assignTo_eq_some.mp hassigned
      rfl
  | reassign newUser note =>
    obtain ⟨db, hreassigned, hs⟩ := map_eq_ok.mp success
    obtain ⟨rfl, rfl⟩ := Prod.mk.inj hs
    obtain ⟨he, row, -, -, rfl⟩ := reassignHubEmail_cases hreassigned
    exact ⟨moveLoad_tickets .., rfl⟩
  | transition newState =>
    obtain ⟨t, htransition, hs⟩ := map_eq_ok.mp success
    obtain ⟨rfl, rfl⟩ := Prod.mk.inj hs
    obtain ⟨-, responds, rfl⟩ := transitionHubEmail_cases htransition
    exact ⟨rfl, rfl⟩
  | escalate =>
    obtain ⟨rfl, rfl⟩ := Prod.mk.inj (Except.ok.inj success)
    unfold escalateHubEmail
    split <;> exact ⟨rfl, rfl⟩
  | dismiss reason =>
    obtain ⟨t, hdismissed, hs⟩ := map_eq_ok.mp success
    obtain ⟨rfl, rfl⟩ := Prod.mk.inj hs
    obtain ⟨he, -, -, ⟨-, hsame⟩ | ⟨-, hsaved⟩⟩ := dismissHubEmail_cases hdismissed
    · exact ⟨hsame ▸ rfl, rfl⟩
    · exact ⟨hsaved ▸ rfl, rfl⟩
  | convert creator overrides => cases hother

theorem sweepOn_tickets (now : Instant) (step : SweepStep) :
    (sweepOn hub req now s step).1.db.tickets = s.db.tickets := by
  cases step with
  | response =>
    simp only [sweepOn]
    split
    · rfl
    split <;> rfl
  | escalation =>
    simp only [sweepOn, escalateHubEmail]
    split <;> rfl
  | resolution =>
    simp only [sweepOn]
    split <;> rfl

variable (hub run errand) in
/-- A turn that converts nothing changes neither tickets nor history. -/
theorem act_tickets (hother : action.converts = false) :
    (act hub run errand action).1.db.tickets = run.db.tickets ∧
      (act hub run errand action).1.conversions = run.conversions := by
  cases action with
  | park req id =>
    refine ⟨?_, rfl⟩
    simp only [act, parkEmailInHub]
    split <;> rfl
  | load id =>
    cases hrow : run.db.emails id with
    | none => simp [act, hrow]
    | some he => simp [act, hrow]
  | call req service =>
    cases errand with
    | holding id he =>
      simp only [act]
      cases hcall : callService hub req { db := run.db, id, hubEmail := he } service with
      | error message => exact ⟨rfl, rfl⟩
      | ok result =>
        obtain ⟨htickets, hnone⟩ := callService_tickets hother hcall
        exact ⟨htickets, by simp [hnone]⟩
    | idle => exact ⟨rfl, rfl⟩
    | sweeping now step id he => exact ⟨rfl, rfl⟩
  | sweep now id =>
    cases hrow : (run.db.emails id).filter HubEmail.sweeps with
    | none => simp [act, hrow]
    | some he => simp [act, hrow]
  | proceed req =>
    cases errand with
    | sweeping now step id he => exact ⟨sweepOn_tickets now step, rfl⟩
    | idle => exact ⟨rfl, rfl⟩
    | holding id he => exact ⟨rfl, rfl⟩

variable (hub errand) in
/-- Such a turn keeps the tickets that the emails refer to. -/
theorem act_convertedTicket (hother : action.converts = false) (hrow : run.db.emails id = some row)
    :
    ∃ row', (act hub run errand action).1.db.emails id = some row' ∧
      row'.convertedTicket = row.convertedTicket := by
  obtain ⟨row', hrow', hchange⟩ := act_row hub errand action hrow
  refine ⟨row', hrow', ?_⟩
  cases hwritten : unchecked id errand action with
  | some written =>
    rw [hwritten] at hchange
    exact hchange.2
  | none =>
    rw [hwritten] at hchange
    cases hchange with
    | kept _ ticket => exact ticket
    | moved _ ticket => exact ticket
    | converted conversion _ _ =>
      rw [hother] at conversion
      cases conversion

theorem act_absent (action : Action) (habsent : run.db.emails id = none) {row' : HubEmail}
    (hrow' : (act hub run errand action).1.db.emails id = some row') :
    row'.convertedTicket = none := by
  have hnever : run.db.emails id ≠ some row' := by simp [habsent]
  have htouches : ∀ {own : ℕ} {change : HubEmail → HubEmail → Prop} {db : HubDb},
      Touches own change run.db db → db.emails id ≠ some row' := by
    intro own change db touches
    by_cases hown : id = own
    · subst hown
      simp [touches.absent habsent]
    · rwa [touches.others id hown]
  cases action with
  | park req own =>
    simp only [act, parkEmailInHub] at hrow'
    split at hrow'
    · exact absurd hrow' hnever
    · by_cases hown : id = own
      · subst hown
        simp only [HubDb.insertEmail, Function.update_self, Option.some.injEq] at hrow'
        rw [← hrow']
      · simp only [HubDb.insertEmail, Function.update_of_ne hown] at hrow'
        exact absurd hrow' hnever
  | load own =>
    cases hload : run.db.emails own with
    | none => exact absurd (by simpa [act, hload] using hrow') hnever
    | some he => exact absurd (by simpa [act, hload] using hrow') hnever
  | call req service =>
    cases errand with
    | holding own he =>
      simp only [act] at hrow'
      cases hcall : callService hub req { db := run.db, id := own, hubEmail := he } service with
      | error message => exact absurd (by simpa [hcall] using hrow') hnever
      | ok result =>
        exact absurd (by simpa [hcall] using hrow') (htouches (callService_touches hcall))
    | idle => exact absurd hrow' hnever
    | sweeping now step own he => exact absurd hrow' hnever
  | sweep now own =>
    cases hload : (run.db.emails own).filter HubEmail.sweeps with
    | none => exact absurd (by simpa [act, hload] using hrow') hnever
    | some he => exact absurd (by simpa [act, hload] using hrow') hnever
  | proceed req =>
    cases errand with
    | sweeping now step own he =>
      have hswept : Touches own (Change false (uncheckedStep he step)) run.db
          (sweepOn hub req now { db := run.db, id := own, hubEmail := he } step).1.db :=
        sweepOn_touches (s := { db := run.db, id := own, hubEmail := he }) now step
      exact absurd hrow' (htouches hswept)
    | idle => exact absurd hrow' hnever
    | holding own he => exact absurd hrow' hnever

theorem Recorded.other (recorded : Recorded run) (hother : action.converts = false) :
    Recorded (act hub run errand action).1 := by
  obtain ⟨htickets, hconversions⟩ := act_tickets hub run errand hother
  constructor
  · rw [hconversions]
    exact recorded.once
  · rw [hconversions, htickets]
    exact recorded.stored
  · rw [hconversions]
    intro conversion hmem
    obtain ⟨row, hrow, hticket⟩ := recorded.known conversion hmem
    obtain ⟨row', hrow', hsame⟩ := act_convertedTicket hub errand hother hrow
    exact ⟨row', hrow', hsame.trans hticket⟩
  · rw [hconversions]
    intro id row' ticket hrow' hticket
    cases hrow : run.db.emails id with
    | none =>
      rw [act_absent action hrow hrow'] at hticket
      cases hticket
    | some row =>
      obtain ⟨found, hfound, hsame⟩ := act_convertedTicket hub errand hother hrow
      rw [hrow', Option.some.injEq] at hfound
      subst hfound
      exact recorded.origin id row ticket hrow (hsame.symm.trans hticket)

/-! ## Conversions -/

theorem Recorded.again (recorded : Recorded run) {ticket : ℕ} (hemail : run.db.emails id = some he)
    (hexisting : he.existingTicket = some ticket) :
    Recorded
      { run with
        conversions := run.conversions ++
          [{ hubEmail := id, ticket, created := (run.db.tickets.tickets ticket).isNone }] } := by
  have hticket : he.convertedTicket = some ticket := by
    unfold HubEmail.existingTicket at hexisting
    split at hexisting
    · exact hexisting
    · cases hexisting
  have horigin := recorded.origin id he ticket hemail hticket
  have hstored := recorded.stored _ horigin
  have hold : (run.db.tickets.tickets ticket).isNone = false := by
    rw [Option.isNone_eq_false_iff]
    exact hstored
  constructor
  · simp only [convertedEmails, List.filter_append, hold, List.filter_cons_of_neg, List.filter_nil,
      Bool.false_eq_true, not_false_eq_true, List.append_nil]
    exact recorded.once
  · intro conversion hmem
    rcases List.mem_append.mp hmem with hbefore | hnew
    · exact recorded.stored conversion hbefore
    · rw [List.mem_singleton.mp hnew]
      exact hstored
  · intro conversion hmem
    rcases List.mem_append.mp hmem with hbefore | hnew
    · exact recorded.known conversion hbefore
    · rw [List.mem_singleton.mp hnew]
      exact ⟨he, hemail, hticket⟩
  · intro own row found hrow hfound
    exact List.mem_append_left _ (recorded.origin own row found hrow hfound)

theorem Recorded.first (recorded : Recorded run) {overrides : NewTicket} {agent : Option ℕ}
    {db : HubDb} (hemail : run.db.emails id = some he) (hnone : he.convertedTicket = none)
    (clock : Clock) (adds : Adds hub.workspace overrides agent run.db.tickets db.tickets)
    (hemails : db.emails = (run.db.updateEmail id (.convert clock overrides.id)).emails) :
    Recorded
      { db
        conversions := run.conversions ++
          [{ hubEmail := id, ticket := overrides.id
             created := (run.db.tickets.tickets overrides.id).isNone }] } := by
  have hunused : ∀ conversion ∈ run.conversions, conversion.hubEmail ≠ id := by
    rintro conversion hmem rfl
    obtain ⟨row, hrow, hticket⟩ := recorded.known conversion hmem
    rw [hemail, Option.some.injEq] at hrow
    subst hrow
    rw [hnone] at hticket
    cases hticket
  have hnew : (run.db.tickets.tickets overrides.id).isNone = true := by rw [adds.absent]; rfl
  have hothers : ∀ other ≠ id, db.emails other = run.db.emails other := by
    intro other hother
    rw [hemails, HubDb.updateEmail_of_ne _ _ _ hother]
  have hconverted : db.emails id = some (he.convert clock overrides.id) := by
    rw [hemails, HubDb.updateEmail_of_row _ _ _ hemail]
  rw [hnew]
  constructor
  · simp only [convertedEmails, List.filter_append, List.map_append]
    refine List.nodup_append.mpr ⟨recorded.once, List.nodup_singleton id, ?_⟩
    rintro own hmem _ hlast rfl
    obtain ⟨conversion, hconversion, rfl⟩ := List.mem_map.mp hmem
    have hsame : conversion.hubEmail = id := by simpa using hlast
    exact hunused conversion (List.mem_of_mem_filter hconversion) hsame
  · intro conversion hmem
    obtain ⟨row, hrow, -⟩ := adds.row
    rcases List.mem_append.mp hmem with hbefore | hlast
    · have hstored := recorded.stored conversion hbefore
      have hother : conversion.ticket ≠ overrides.id := by
        intro heq
        rw [heq, adds.absent] at hstored
        cases hstored
      rw [adds.others _ hother]
      exact hstored
    · rw [List.mem_singleton.mp hlast, hrow]
      rfl
  · intro conversion hmem
    rcases List.mem_append.mp hmem with hbefore | hlast
    · rw [hothers _ (hunused conversion hbefore)]
      exact recorded.known conversion hbefore
    · rw [List.mem_singleton.mp hlast]
      exact ⟨_, hconverted, rfl⟩
  · intro own row ticket hrow hticket
    by_cases hown : own = id
    · subst hown
      rw [hconverted, Option.some.injEq] at hrow
      subst hrow
      rw [← Option.some.inj hticket]
      exact List.mem_append_right _ List.mem_cons_self
    · rw [hothers own hown] at hrow
      exact List.mem_append_left _ (recorded.origin own row ticket hrow hticket)

end Turns

/-! ## Runs -/

section Runs

variable {hub : Hub}

theorem existingTicket_of_open (hopen : row.state.terminal = false) :
    row.existingTicket = none ∧ canTransition row.state .convertedToTicket = true := by
  unfold HubEmail.existingTicket
  cases hstate : row.state <;> simp [hstate, State.terminal, canTransition, allowedTransitions] at hopen ⊢

theorem convertedTicket_of_terminal (hterminal : row.state.terminal = true)
    (hnone : row.existingTicket = none) (hallowed : row.state = .convertedToTicket ∨
      canTransition row.state .convertedToTicket = true) : row.convertedTicket = none := by
  unfold HubEmail.existingTicket at hnone
  rcases hallowed with hconverted | hallowed
  · rwa [if_pos hconverted] at hnone
  · rw [canTransition_terminal hterminal] at hallowed
    cases hallowed

/-- A conversion of an email without a ticket, or of a terminal one, keeps the record. -/
theorem Recorded.turn (recorded : Recorded world.shared) (unspent : Unspent hub world event) :
    Recorded (turn hub world event).shared := by
  obtain ⟨process, action⟩ := event
  cases hconverts : action.converts with
  | false => exact recorded.other hconverts
  | true =>
    obtain ⟨req, creator, overrides, rfl⟩ :
        ∃ req creator overrides, action = .call req (.convert creator overrides) := by
      cases action with
      | call req service =>
        cases service with
        | convert creator overrides => exact ⟨req, creator, overrides, rfl⟩
        | _ => cases hconverts
      | _ => cases hconverts
    cases herrand : world.locals process with
    | idle => simpa [Inbox.turn, act, herrand] using recorded
    | sweeping now step id he => simpa [Inbox.turn, act, herrand] using recorded
    | holding id he =>
      simp only [World.turn_shared, act, herrand, callService]
      cases hcall : convertToTicket hub req creator overrides
          { db := world.shared.db, id, hubEmail := he } with
      | error message => exact recorded
      | ok result =>
        obtain ⟨ticket, s⟩ := result
        obtain ⟨row, hrow, -, hcases⟩ := convertToTicket_cases hcall
        dsimp only at hrow hcases
        obtain ⟨hexisting, hsame⟩ | ⟨hnone, hallowed, db, hcreate, hsaved⟩ := hcases
        · simp only [Except.map, hsame]
          exact recorded.again hrow hexisting
        · have hcan : canCreateFromEmail hub.workspace overrides world.shared.db.tickets =
              true := by
            rw [← createHubTicket_isOk, hcreate]
            rfl
          have hfree : row.convertedTicket = none := by
            cases hticket : row.convertedTicket with
            | none => rfl
            | some spent =>
              have hterminal := unspent id he req creator overrides row herrand rfl hrow
                hcan (hticket ▸ rfl)
              rw [← hticket]
              exact convertedTicket_of_terminal hterminal hnone hallowed
          obtain ⟨rfl, creates⟩ := createHubTicket_cases hcreate
          simp only [Except.map, hsaved]
          refine recorded.first hrow hfree req.clock creates.adds ?_
          rw [HubDb.updateEmail, creates.emails]
          rfl

/-- A conversion that creates another ticket is one too many. -/
theorem unspent_of_convertsOnce (recorded : Recorded world.shared)
    (once : ConvertsOnce (turn hub world event).shared.conversions) : Unspent hub world event := by
  intro id he req creator overrides row hholding haction hrow hcan hspent
  cases hopen : row.state.terminal with
  | true => rfl
  | false =>
    obtain ⟨hnone, hallowed⟩ := existingTicket_of_open hopen
    obtain ⟨process, action⟩ := event
    dsimp only at hholding haction
    subst haction
    obtain ⟨⟨ticket, s⟩, hcall⟩ : ∃ result, convertToTicket hub req creator overrides
        { db := world.shared.db, id, hubEmail := he } = .ok result :=
      convertToTicket_isOk hrow hnone (.inr hallowed) hcan
    obtain ⟨spent, hticket⟩ := Option.isSome_iff_exists.mp hspent
    have hbefore : id ∈ convertedEmails world.shared.conversions :=
      List.mem_map.mpr ⟨_, List.mem_filter.mpr
        ⟨recorded.origin id row spent hrow hticket, rfl⟩, rfl⟩
    have hnew : (world.shared.db.tickets.tickets ticket).isNone = true := by
      obtain ⟨stored, hstored, -, ⟨hexisting, -⟩ | ⟨-, -, db, hcreate, -⟩⟩ :=
        convertToTicket_cases hcall
      · rw [hrow, Option.some.injEq] at hstored
        rw [← hstored, hnone] at hexisting
        cases hexisting
      · obtain ⟨rfl, creates⟩ := createHubTicket_cases hcreate
        rw [creates.adds.absent]
        rfl
    have hhistory := once.created
    simp only [World.turn_shared, act, hholding, callService, hcall, Except.map, hnew,
      convertedEmails, List.filter_append, List.map_append] at hhistory
    have hapart := (List.nodup_append.mp hhistory).2.2 id hbefore id
    simp at hapart

/--
Conversions interleaved with any other services: each email has one ticket at most, and each
conversion returns it, exactly if no conversion comes upon an email that has its ticket
already but was taken out of its terminal state.
-/
theorem converts_once_iff (hub : Hub) (db : HubDb) (locals : ℕ → Errand)
    (events : List (ℕ × Action)) :
    Always (turn hub) (fun world => ConvertsOnce world.shared.conversions) (opening db locals)
        events ↔
      Every (turn hub) (Unspent hub) (opening db locals) events :=
  always_iff_every (fun (world : World HubRun Errand) (recorded : Recorded world.shared) => recorded.convertsOnce)
    (fun _ _ recorded unspent => recorded.turn unspent)
    (fun _ _ recorded once => unspent_of_convertsOnce recorded once) (opening_recorded db locals)
    events

/-- An email with a ticket is in its terminal state. -/
def Filed (db : HubDb) : Prop :=
  ∀ id row, db.emails id = some row → row.convertedTicket.isSome = true →
    row.state = .convertedToTicket

/-- Turns that go by the row leave converted emails converted. -/
theorem Filed.turn (filed : Filed world.shared.db) (current : Current world event) :
    Filed (turn hub world event).shared.db := by
  intro id row' hrow' hticket
  cases hrow : world.shared.db.emails id with
  | none =>
    rw [act_absent event.2 hrow hrow'] at hticket
    cases hticket
  | some row =>
    obtain ⟨found, hfound, hchange⟩ := act_row hub (world.locals event.1) event.2 hrow
    obtain rfl : row' = found := Option.some.inj (hrow'.symm.trans hfound)
    cases hwritten : unchecked id (world.locals event.1) event.2 with
    | none =>
      rw [hwritten] at hchange
      cases hchange with
      | kept state ticket => exact state.trans (filed id row hrow (ticket ▸ hticket))
      | moved allowed ticket =>
        have hterminal : row.state.terminal = true := by
          rw [filed id row hrow (ticket ▸ hticket)]
          rfl
        rw [canTransition_terminal hterminal] at allowed
        cases allowed
      | converted _ _ state => exact state
    | some written =>
      rw [hwritten] at hchange
      obtain ⟨hstate, hsame⟩ := hchange
      have hconverted := filed id row hrow (hsame ▸ hticket)
      rcases current id row.state written hwritten (by rw [HubDb.state, hrow]; rfl) with
        rfl | hallowed
      · exact hstate.trans hconverted
      · rw [hconverted, canTransition_terminal rfl] at hallowed
        cases hallowed

/-- While every turn goes by the row, no email is converted twice. -/
theorem converts_once_of_current (db : HubDb) (locals : ℕ → Errand) {events : List (ℕ × Action)}
    (current : Every (turn hub) Current (opening db locals) events) :
    Always (turn hub) (fun world => ConvertsOnce world.shared.conversions) (opening db locals)
      events := by
  have unspent : Every (turn hub) (Unspent hub) (opening db locals) events := by
    refine every_of_invariant (fun world => Filed world.shared.db) ?_
      (fun _ _ filed current => filed.turn current) ?_ events current
    · intro world event filed _ id he req creator overrides row _ _ hrow _ hspent
      rw [filed id row hrow hspent]
      rfl
    · intro id row hrow
      cases hrow
  exact always_of_invariant (fun world => Recorded world.shared)
    (fun _ recorded => recorded.convertsOnce) (fun _ _ recorded unspent => recorded.turn unspent)
    (opening_recorded db locals) events unspent

theorem converts_once_of_current_repeated :
    let req : Request := { clock := ⟨0, 0, 0, 0⟩ }
    Always (turn { workspace := .seeded }) (fun world => ConvertsOnce world.shared.conversions)
      (opening {} fun _ => .idle)
      [(0, .park req 0), (0, .load 0), (0, .call req (.convert 5 { id := 10 })),
        (0, .call req (.convert 5 { id := 11 }))] := by
  refine converts_once_of_current _ _ ⟨nofun, nofun, ?_, ?_, trivial⟩
  all_goals
    intro id before after hwritten
    generalize World.locals _ _ = errand at hwritten
    cases errand <;> simp [unchecked, uncheckedState] at hwritten

end Runs

/-! ## A second ticket -/

/-- An escalation that has loaded the email before its conversion opens it for another one. -/
def convertedTwice : List (ℕ × Action) :=
  let req : Request := { clock := ⟨0, 0, 0, 0⟩ }
  [(0, .park req 0), (0, .load 0), (1, .load 0), (1, .call req (.convert 5 { id := 10 })),
    (0, .call req .escalate), (1, .call req (.convert 5 { id := 11 }))]

/-- Two tickets are created from one email. -/
theorem converts_twice :
    ¬ Always (turn { workspace := .seeded }) (fun world => ConvertsOnce world.shared.conversions)
      (opening {} fun _ => .idle) convertedTwice := by
  intro always
  have hcreated := always.finish.created
  revert hcreated
  decide

end Kanzan.Inbox

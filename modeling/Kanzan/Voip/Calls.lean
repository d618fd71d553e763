import Kanzan.Support.Runs

/-!
# Call logs

The log of a call is written by the operations of the agents and by the events of Asterisk.  Times
are in microseconds of a clock that never runs backwards.
-/

namespace Kanzan.Voip

open Support

inductive Status where
  | ringing
  | answered
  | onHold
  | completed
  | failed
  | missed
  | busy
  | noAnswer
  | voicemail
  deriving DecidableEq

def Status.isEnded : Status → Bool
  | .completed | .missed => true
  | _ => false

structure CallLog where
  asteriskChannelId : String
  status : Status := .ringing
  answeredAt : Option ℕ := none
  endedAt : Option ℕ := none
  durationSeconds : ℕ := 0
  /-- The entry `transferred_to` of the metadata. -/
  transferredTo : Option String := none
  deriving DecidableEq

/-- `CallLog.is_active`. -/
def CallLog.isActive (call : CallLog) : Bool :=
  call.status = .ringing ∨ call.status = .answered ∨ call.status = .onHold

def totalSeconds (start finish : ℕ) : ℕ := (finish - start) / 1000000

def durationAt (call : CallLog) (now : ℕ) : ℕ :=
  match call.answeredAt with
  | none => call.durationSeconds
  | some answeredAt => totalSeconds answeredAt now

def CallLog.endAs (call : CallLog) (status : Status) (now : ℕ) : CallLog :=
  { call with status, endedAt := some now, durationSeconds := durationAt call now }

/-! ## Operations -/

/-- A client for Asterisk, if the tenant has one, and what Asterisk answers to its request. -/
abbrev Client := Option (Except String Unit)

def notConfigured : String := "VoIP is not configured for this tenant."

/-- `hangup_call`; what Asterisk answers does not matter. -/
def hangupCall (client : Client) (now : ℕ) (call : CallLog) : Except String CallLog :=
  if call.asteriskChannelId = "" then .ok (call.endAs .completed now)
  else match client with
  | none => .error notConfigured
  | some _ => .ok (call.endAs .completed now)

/-- `toggle_hold`. -/
def toggleHold (client : Client) (call : CallLog) : Except String CallLog :=
  if call.asteriskChannelId = "" then .error "No active ARI channel."
  else match client with
  | none => .error notConfigured
  | some (.error err) => .error err
  | some (.ok _) =>
    .ok { call with status := if call.status = .onHold then .answered else .onHold }

structure Extension where
  extensionNumber : String
  sipUsername : String
  isActive : Bool

def transferEndpoint (extensions : List Extension) (targetNumber : String) : String :=
  match extensions.find? fun ext => ext.extensionNumber == targetNumber && ext.isActive with
  | some targetExt => s!"PJSIP/{targetExt.sipUsername}"
  | none => s!"PJSIP/{targetNumber}"

/-- `transfer_call`; the client answers for each endpoint. -/
def transferCall (extensions : List Extension) (client : Option (String → Except String Unit))
    (targetNumber : String) (now : ℕ) (call : CallLog) : Except String CallLog :=
  if call.asteriskChannelId = "" then .error "No active ARI channel."
  else match client with
  | none => .error notConfigured
  | some redirect =>
    match redirect (transferEndpoint extensions targetNumber) with
    | .error err => .error err
    | .ok _ => .ok { call.endAs .completed now with transferredTo := some targetNumber }

/-! ## Events of Asterisk -/

inductive AriEventType where
  | channelStateChange
  | channelHangupRequest
  | channelDestroyed
  | channelHold
  | channelUnhold
  /-- Every other type. -/
  | other
  deriving DecidableEq

/-- An event with the identifier and the state of its channel. -/
structure AriEvent where
  type : AriEventType
  channelId : String
  state : String := ""

def onAriEvent (event : AriEvent) (now : ℕ) (call : CallLog) : CallLog :=
  match event.type with
  | .channelStateChange =>
    if event.state = "Up" ∧ call.status = .ringing then
      { call with status := .answered, answeredAt := some now }
    else call
  | .channelHangupRequest =>
    call.endAs (if call.answeredAt.isSome then .completed else .missed) now
  | .channelDestroyed =>
    if call.status = .ringing ∨ call.status = .answered ∨ call.status = .onHold then
      call.endAs (if call.answeredAt.isSome then .completed else .missed) now
    else call
  | .channelHold => { call with status := .onHold }
  | .channelUnhold => { call with status := .answered }
  | .other => call

/-- `process_ari_event`, where the call is the only one of its channel. -/
def processAriEvent (event : AriEvent) (now : ℕ) (call : CallLog) : CallLog :=
  if event.channelId = "" then call
  else if call.asteriskChannelId = event.channelId then onAriEvent event now call
  else call

/-! ## Steps -/

structure Line where
  call : CallLog
  clock : ℕ

inductive Operation where
  | hangupCall (client : Client)
  | toggleHold (client : Client)
  | transferCall (extensions : List Extension) (client : Option (String → Except String Unit))
      (targetNumber : String)
  | processAriEvent (event : AriEvent)

/-- An operation, some time after the one before. -/
structure Event where
  elapsed : ℕ
  operation : Operation

def stored (call : CallLog) : Except String CallLog → CallLog
  | .ok after => after
  | .error _ => call

def operate (call : CallLog) (now : ℕ) : Operation → CallLog
  | .hangupCall client => stored call (hangupCall client now call)
  | .toggleHold client => stored call (toggleHold client call)
  | .transferCall extensions client targetNumber =>
    stored call (transferCall extensions client targetNumber now call)
  | .processAriEvent event => processAriEvent event now call

def lineStep (line : Line) (event : Event) : Line :=
  { call := operate line.call (line.clock + event.elapsed) event.operation
    clock := line.clock + event.elapsed }

/-! ## Ends -/

/-- A call has an end exactly when it is over. -/
def Dated (line : Line) : Prop := line.call.endedAt.isSome ↔ line.call.status.isEnded = true

/-- The status, the end and the duration are those of before. -/
structure Unchanged (call after : CallLog) : Prop where
  status : after.status = call.status
  endedAt : after.endedAt = call.endedAt
  durationSeconds : after.durationSeconds = call.durationSeconds

/-- A step leaves a call alone that is over. -/
def Final (line : Line) (event : Event) : Prop :=
  line.call.status.isEnded = true → Unchanged line.call (lineStep line event).call

def EndedNow (call : CallLog) (status : Status) (now : ℕ) : Prop :=
  call.status = status ∧ call.endedAt = some now

/-- Why an operation does nothing to a call that is over: the services do not reach Asterisk, the
event is of another channel or of a type that looks at the status first, or the call ended in the
same way at the same microsecond. -/
def Late (call : CallLog) (now : ℕ) : Operation → Prop
  | .hangupCall client =>
    (call.asteriskChannelId ≠ "" ∧ client = none) ∨ EndedNow call .completed now
  | .toggleHold client => call.asteriskChannelId = "" ∨ client ≠ some (.ok ())
  | .transferCall extensions client targetNumber =>
    (call.asteriskChannelId = "" ∨
      client.map (· (transferEndpoint extensions targetNumber)) ≠ some (.ok ())) ∨
        EndedNow call .completed now
  | .processAriEvent event =>
    event.channelId = "" ∨ call.asteriskChannelId ≠ event.channelId ∨
      match event.type with
      | .channelStateChange | .channelDestroyed | .other => True
      | .channelHangupRequest =>
        EndedNow call (if call.answeredAt.isSome then .completed else .missed) now
      | .channelHold | .channelUnhold => False

/-- No operation comes late and has an effect. -/
def Admits (line : Line) (event : Event) : Prop :=
  line.call.status.isEnded = true → Late line.call (line.clock + event.elapsed) event.operation

def Timed (call : CallLog) : Prop :=
  ∀ endedAt, call.endedAt = some endedAt → call.durationSeconds = durationAt call endedAt

/-- What a step keeps of a call. -/
structure Logged (line : Line) : Prop where
  dated : Dated line
  timed : Timed line.call

section Operations

variable {call : CallLog} {now : ℕ}

theorem Unchanged.refl (call : CallLog) : Unchanged call call := ⟨rfl, rfl, rfl⟩

theorem unchanged_endAs_iff (timed : Timed call) (status : Status) :
    Unchanged call (call.endAs status now) ↔ EndedNow call status now := by
  constructor
  · intro unchanged
    exact ⟨unchanged.status.symm, unchanged.endedAt.symm⟩
  · rintro ⟨hstatus, hended⟩
    exact ⟨hstatus.symm, hended.symm, (timed now hended).symm⟩

theorem not_unchanged_of_active {after : CallLog} (hended : call.status.isEnded = true)
    (hactive : after.status.isEnded = false) : ¬ Unchanged call after := by
  intro unchanged
  rw [unchanged.status, hended] at hactive
  cases hactive

theorem isEnded_toggle (status : Status) :
    (if status = .onHold then Status.answered else .onHold).isEnded = false := by
  split <;> rfl

theorem unchanged_hangupCall_iff (timed : Timed call) (client : Client) :
    Unchanged call (stored call (hangupCall client now call)) ↔
      (call.asteriskChannelId ≠ "" ∧ client = none) ∨ EndedNow call .completed now := by
  unfold hangupCall
  by_cases hchannel : call.asteriskChannelId = ""
  · rw [if_pos hchannel, stored, unchanged_endAs_iff timed]
    exact ⟨.inr, fun late => late.resolve_left fun hclient => hclient.1 hchannel⟩
  · rw [if_neg hchannel]
    cases client with
    | none => exact ⟨fun _ => .inl ⟨hchannel, rfl⟩, fun _ => .refl call⟩
    | some answer =>
      rw [stored, unchanged_endAs_iff timed]
      exact ⟨.inr, fun late => late.resolve_left fun hclient => by cases hclient.2⟩

theorem unchanged_toggleHold_iff (hended : call.status.isEnded = true) (client : Client) :
    Unchanged call (stored call (toggleHold client call)) ↔
      call.asteriskChannelId = "" ∨ client ≠ some (.ok ()) := by
  unfold toggleHold
  by_cases hchannel : call.asteriskChannelId = ""
  · rw [if_pos hchannel]
    exact ⟨fun _ => .inl hchannel, fun _ => .refl call⟩
  · rw [if_neg hchannel]
    match client with
    | none => exact ⟨fun _ => .inr nofun, fun _ => .refl call⟩
    | some (.error err) => exact ⟨fun _ => .inr nofun, fun _ => .refl call⟩
    | some (.ok _) =>
      have hchanged : ¬ Unchanged call
          { call with status := if call.status = .onHold then .answered else .onHold } :=
        not_unchanged_of_active hended (isEnded_toggle call.status)
      exact ⟨fun unchanged => absurd unchanged hchanged,
        fun late => absurd (late.resolve_left hchannel) fun hne => hne rfl⟩

theorem unchanged_transferCall_iff (timed : Timed call) (extensions : List Extension)
    (client : Option (String → Except String Unit)) (targetNumber : String) :
    Unchanged call (stored call (transferCall extensions client targetNumber now call)) ↔
      (call.asteriskChannelId = "" ∨
        client.map (· (transferEndpoint extensions targetNumber)) ≠ some (.ok ())) ∨
          EndedNow call .completed now := by
  unfold transferCall
  by_cases hchannel : call.asteriskChannelId = ""
  · rw [if_pos hchannel]
    exact ⟨fun _ => .inl (.inl hchannel), fun _ => .refl call⟩
  · rw [if_neg hchannel]
    cases client with
    | none => exact ⟨fun _ => .inl (.inr nofun), fun _ => .refl call⟩
    | some redirect =>
      simp only [Option.map_some, ne_eq, Option.some.injEq]
      cases hanswer : redirect (transferEndpoint extensions targetNumber) with
      | error err => exact ⟨fun _ => .inl (.inr nofun), fun _ => .refl call⟩
      | ok answer =>
        have hends : Unchanged call
            { call.endAs .completed now with transferredTo := some targetNumber } ↔
              EndedNow call .completed now := by
          rw [← unchanged_endAs_iff timed]
          exact ⟨fun ⟨hstatus, hended, hduration⟩ => ⟨hstatus, hended, hduration⟩,
            fun ⟨hstatus, hended, hduration⟩ => ⟨hstatus, hended, hduration⟩⟩
        refine hends.trans ⟨.inr, fun late => late.resolve_left ?_⟩
        rintro (hempty | hne)
        · exact hchannel hempty
        · exact hne rfl

theorem unchanged_processAriEvent_iff (hended : call.status.isEnded = true) (timed : Timed call)
    (event : AriEvent) :
    Unchanged call (processAriEvent event now call) ↔
      Late call now (.processAriEvent event) := by
  unfold processAriEvent Late
  by_cases hempty : event.channelId = ""
  · rw [if_pos hempty]
    exact ⟨fun _ => .inl hempty, fun _ => .refl call⟩
  rw [if_neg hempty]
  by_cases hchannel : call.asteriskChannelId = event.channelId
  · have hringing : call.status ≠ .ringing := fun hstatus => by
      rw [hstatus] at hended
      cases hended
    have hactive :
        ¬ (call.status = .ringing ∨ call.status = .answered ∨ call.status = .onHold) := by
      rintro (hstatus | hstatus | hstatus) <;> rw [hstatus] at hended <;> cases hended
    rw [if_pos hchannel]
    simp only [hempty, hchannel, ne_eq, not_true_eq_false, false_or]
    unfold onAriEvent
    cases event.type with
    | channelStateChange =>
      rw [if_neg fun hup => hringing hup.2]
      exact ⟨fun _ => trivial, fun _ => .refl call⟩
    | channelHangupRequest => exact unchanged_endAs_iff timed _
    | channelDestroyed =>
      rw [if_neg hactive]
      exact ⟨fun _ => trivial, fun _ => .refl call⟩
    | channelHold =>
      have hchanged : ¬ Unchanged call { call with status := .onHold } :=
        not_unchanged_of_active hended rfl
      exact ⟨hchanged, False.elim⟩
    | channelUnhold =>
      have hchanged : ¬ Unchanged call { call with status := .answered } :=
        not_unchanged_of_active hended rfl
      exact ⟨hchanged, False.elim⟩
    | other => exact ⟨fun _ => trivial, fun _ => .refl call⟩
  · rw [if_neg hchannel]
    exact ⟨fun _ => .inr (.inl hchannel), fun _ => .refl call⟩

theorem unchanged_operate_iff (hended : call.status.isEnded = true) (timed : Timed call)
    (operation : Operation) :
    Unchanged call (operate call now operation) ↔ Late call now operation := by
  cases operation with
  | hangupCall client => exact unchanged_hangupCall_iff timed client
  | toggleHold client => exact unchanged_toggleHold_iff hended client
  | transferCall extensions client targetNumber =>
    exact unchanged_transferCall_iff timed extensions client targetNumber
  | processAriEvent event => exact unchanged_processAriEvent_iff hended timed event

/-- What an operation makes of a call that is not over: it ends now, or it goes on. -/
inductive Proceeds (call : CallLog) (now : ℕ) (after : CallLog) : Prop where
  | ended (status : after.status.isEnded = true) (endedAt : after.endedAt = some now)
      (answeredAt : after.answeredAt = call.answeredAt)
      (durationSeconds : after.durationSeconds = durationAt call now)
  | active (status : after.status.isEnded = false) (endedAt : after.endedAt = call.endedAt)

theorem proceeds_endAs {status : Status} (hended : status.isEnded = true) :
    Proceeds call now (call.endAs status now) :=
  .ended hended rfl rfl rfl

theorem isEnded_answer (answeredAt : Option ℕ) :
    (if answeredAt.isSome then Status.completed else .missed).isEnded = true := by
  split <;> rfl

theorem proceeds_onAriEvent (hactive : call.status.isEnded = false) (event : AriEvent) :
    Proceeds call now (onAriEvent event now call) := by
  unfold onAriEvent
  cases event.type with
  | channelStateChange =>
    dsimp only
    split
    · exact .active rfl rfl
    · exact .active hactive rfl
  | channelHangupRequest => exact proceeds_endAs (isEnded_answer _)
  | channelDestroyed =>
    dsimp only
    split
    · exact proceeds_endAs (isEnded_answer _)
    · exact .active hactive rfl
  | channelHold => exact .active rfl rfl
  | channelUnhold => exact .active rfl rfl
  | other => exact .active hactive rfl

theorem proceeds_operate (hactive : call.status.isEnded = false) (operation : Operation) :
    Proceeds call now (operate call now operation) := by
  have same : Proceeds call now call := .active hactive rfl
  cases operation with
  | hangupCall client =>
    rw [operate, hangupCall.eq_def]
    split
    · exact proceeds_endAs rfl
    · cases client with
      | none => exact same
      | some answer => exact proceeds_endAs rfl
  | toggleHold client =>
    rw [operate, toggleHold.eq_def]
    split
    · exact same
    · match client with
      | none | some (.error _) => exact same
      | some (.ok _) => exact .active (isEnded_toggle call.status) rfl
  | transferCall extensions client targetNumber =>
    rw [operate, transferCall.eq_def]
    split
    · exact same
    · cases client with
      | none => exact same
      | some redirect =>
        dsimp only
        split
        · exact same
        · exact .ended rfl rfl rfl rfl
  | processAriEvent event =>
    rw [operate, processAriEvent]
    split
    · exact same
    · split
      · exact proceeds_onAriEvent hactive event
      · exact same

theorem answeredAt_operate (hended : call.status.isEnded = true) (operation : Operation) :
    (operate call now operation).answeredAt = call.answeredAt := by
  have hringing : call.status ≠ .ringing := fun hstatus => by
    rw [hstatus] at hended
    cases hended
  cases operation with
  | hangupCall client =>
    rw [operate, hangupCall.eq_def]
    split
    · rfl
    · cases client <;> rfl
  | toggleHold client =>
    rw [operate, toggleHold.eq_def]
    split
    · rfl
    · match client with
      | none | some (.error _) | some (.ok _) => rfl
  | transferCall extensions client targetNumber =>
    rw [operate, transferCall.eq_def]
    split
    · rfl
    · cases client with
      | none => rfl
      | some redirect =>
        dsimp only
        split <;> rfl
  | processAriEvent event =>
    rw [operate, processAriEvent]
    split
    · rfl
    · split
      · unfold onAriEvent
        cases event.type with
        | channelStateChange => rw [if_neg fun hup => hringing hup.2]
        | channelDestroyed =>
          dsimp only
          split <;> rfl
        | channelHangupRequest | channelHold | channelUnhold | other => rfl
      · rfl

end Operations

section Runs

variable {line : Line} {event : Event}

theorem Logged.final_iff (logged : Logged line) : Final line event ↔ Admits line event :=
  ⟨fun final hended => (unchanged_operate_iff hended logged.timed _).mp (final hended),
    fun admits hended => (unchanged_operate_iff hended logged.timed _).mpr (admits hended)⟩

theorem Logged.step (logged : Logged line) (admits : Admits line event) :
    Logged (lineStep line event) := by
  cases hended : line.call.status.isEnded with
  | true =>
    have unchanged := logged.final_iff.mpr admits hended
    have hanswered : (lineStep line event).call.answeredAt = line.call.answeredAt :=
      answeredAt_operate hended event.operation
    constructor
    · rw [Dated, unchanged.status, unchanged.endedAt]
      exact logged.dated
    · intro endedAt hend
      rw [unchanged.endedAt] at hend
      rw [unchanged.durationSeconds, durationAt, hanswered, unchanged.durationSeconds]
      exact logged.timed endedAt hend
  | false =>
    have hopen : line.call.endedAt = none := by
      cases hend : line.call.endedAt with
      | none => rfl
      | some endedAt =>
        have hover := logged.dated.mp (by rw [hend]; rfl)
        rw [hended] at hover
        cases hover
    have proceeds : Proceeds line.call (line.clock + event.elapsed) (lineStep line event).call :=
      proceeds_operate hended event.operation
    cases proceeds with
    | ended hstatus hend hanswered hduration =>
      constructor
      · rw [Dated, hend, hstatus]
        exact ⟨fun _ => rfl, fun _ => rfl⟩
      · intro endedAt hnow
        obtain rfl := Option.some.inj (hend.symm.trans hnow)
        rw [durationAt, hanswered]
        cases hcall : line.call.answeredAt with
        | none => rfl
        | some answeredAt =>
          rw [hduration, durationAt, hcall]
    | active hstatus hend =>
      have hnone : (lineStep line event).call.endedAt = none := hend.trans hopen
      constructor
      · rw [Dated, hnone, hstatus]
        exact ⟨nofun, nofun⟩
      · intro endedAt hnow
        rw [hnone] at hnow
        cases hnow

end Runs

def ringing (asteriskChannelId : String) (startedAt : ℕ) : Line where
  call := { asteriskChannelId }
  clock := startedAt

theorem logged_ringing (asteriskChannelId : String) (startedAt : ℕ) :
    Logged (ringing asteriskChannelId startedAt) where
  dated := ⟨nofun, nofun⟩
  timed _ hended := by cases hended

/--
A call that is over stays as it is, and only such a call has an end, exactly in the histories in
which nothing that comes late has an effect.
-/
theorem always_dated_and_final_iff (asteriskChannelId : String) (startedAt : ℕ)
    (events : List Event) :
    Always lineStep Dated (ringing asteriskChannelId startedAt) events ∧
        Every lineStep Final (ringing asteriskChannelId startedAt) events ↔
      Every lineStep Admits (ringing asteriskChannelId startedAt) events :=
  always_and_every_iff (fun (line : Line) (logged : Logged line) => logged.dated)
    (fun _ _ logged admits => logged.step admits)
    (fun _ _ logged => ⟨fun good => logged.final_iff.mp good.2,
      fun admits => ⟨(logged.step admits).dated, logged.final_iff.mpr admits⟩⟩)
    (logged_ringing asteriskChannelId startedAt) events

/-- An agent hangs up a call that nobody answered, and Asterisk reports the request. -/
theorem not_always_dated_and_final_hungUp :
    ¬ (Always lineStep Dated (ringing "1700000000.1" 0)
          [⟨5, .hangupCall (some (.ok ()))⟩,
            ⟨1, .processAriEvent ⟨.channelHangupRequest, "1700000000.1", ""⟩⟩] ∧
        Every lineStep Final (ringing "1700000000.1" 0)
          [⟨5, .hangupCall (some (.ok ()))⟩,
            ⟨1, .processAriEvent ⟨.channelHangupRequest, "1700000000.1", ""⟩⟩]) := by
  rintro ⟨-, final⟩
  have hstatus := (final.2.1 (by decide +kernel)).status
  revert hstatus
  decide +kernel

end Kanzan.Voip

import Kanzan.Support.Processes

/-!
# Deliveries to a webhook

Workers deliver events to one webhook.  Each reads the row, posts, and writes its own copy of the
counter of failures back when the endpoint has answered.
-/

namespace Kanzan.Webhooks

open Support

def maxFailureCount : ℕ := 10

def maxRetries : ℕ := 3

/-- The columns that a delivery reads or writes; `headers` that are no object are empty. -/
structure Webhook where
  pk : String := ""
  url : String := ""
  secret : String := ""
  headers : List (String × String) := []
  isActive : Bool := true
  failureCount : ℕ := 0
  lastTriggeredAt : Option ℕ := none
  lastStatusCode : Option ℕ := none

/-! ## Requests -/

def setHeader (headers : List (String × String)) (name value : String) : List (String × String) :=
  if headers.any (fun header => header.1 == name) then
    headers.map fun header => if header.1 == name then (name, value) else header
  else headers ++ [(name, value)]

structure Post where
  url : String
  data : String
  headers : List (String × String)
  deriving DecidableEq

/-- The request of a delivery; `sign` is the hexadecimal HMAC of a secret and a body. -/
def post (sign : String → String → String) (webhook : Webhook) (body : String) : Post :=
  let headers := webhook.headers.foldl (fun headers header => setHeader headers header.1 header.2)
    [("Content-Type", "application/json"), ("User-Agent", "CRM-Webhook/1.0"),
      ("X-Webhook-ID", webhook.pk)]
  { url := webhook.url
    data := body
    headers :=
      if webhook.secret = "" then headers
      else setHeader headers "X-Webhook-Signature" s!"sha256={sign webhook.secret body}" }

/-- What comes of a request. -/
inductive Reply where
  | response (statusCode : ℕ)
  | requestException

def Reply.success : Reply → Bool
  | .response statusCode => 200 ≤ statusCode && statusCode < 300
  | .requestException => false

def Reply.statusCode : Reply → Option ℕ
  | .response statusCode => some statusCode
  | .requestException => none

/-! ## Workers -/

def afterReply (webhook : Webhook) (reply : Reply) (now : ℕ) : Webhook :=
  { webhook with
    lastTriggeredAt := some now
    lastStatusCode := reply.statusCode
    failureCount := if reply.success then 0 else webhook.failureCount + 1 }

/-- The first save, of `last_triggered_at`, `last_status_code` and `failure_count`. -/
def saveReply (row webhook : Webhook) : Webhook :=
  { row with
    lastTriggeredAt := webhook.lastTriggeredAt
    lastStatusCode := webhook.lastStatusCode
    failureCount := webhook.failureCount }

/-- The second save, of `is_active`. -/
def disable (row : Webhook) : Webhook := { row with isActive := false }

/-- A task that delivers a payload. -/
inductive Task where
  | queued (payload : String) (retries : ℕ)
  /-- The row was read and the request sent. -/
  | posting (payload : String) (retries : ℕ) (webhook : Webhook) (request : Post)
  /-- The reply is saved, and the webhook is to be disabled. -/
  | disabling (payload : String) (retries : ℕ) (success : Bool)
  | done

def settle (payload : String) (retries : ℕ) (success : Bool) : Task :=
  if !success && retries < maxRetries then .queued payload (retries + 1) else .done

def Task.isDisabling : Task → Bool
  | .disabling .. => true
  | _ => false

/-- The row, and the outcomes of the deliveries so far, the last one first. -/
structure Deliveries where
  webhook : Webhook
  outcomes : List Bool := []

inductive Action where
  | read
  | write (reply : Reply) (now : ℕ)
  | disable

/-- A turn of `deliver_webhook_task`; an action that is not the next of the task does nothing. -/
def deliverWebhookTask (sign : String → String → String) (_task : ℕ) (deliveries : Deliveries)
    (task : Task) : Action → Deliveries × Task
  | .read =>
    match task with
    | .queued payload retries =>
      if deliveries.webhook.isActive then
        (deliveries, .posting payload retries deliveries.webhook
          (post sign deliveries.webhook payload))
      else (deliveries, .done)
    | other => (deliveries, other)
  | .write reply now =>
    match task with
    | .posting payload retries webhook _ =>
      let after := afterReply webhook reply now
      ({ webhook := saveReply deliveries.webhook after
         outcomes := reply.success :: deliveries.outcomes },
        if maxFailureCount ≤ after.failureCount then .disabling payload retries reply.success
        else settle payload retries reply.success)
    | other => (deliveries, other)
  | .disable =>
    match task with
    | .disabling payload retries success =>
      ({ deliveries with webhook := Webhooks.disable deliveries.webhook },
        settle payload retries success)
    | other => (deliveries, other)

/-! ## Outcomes -/

def currentRun : List Bool → ℕ
  | [] => 0
  | true :: _ => 0
  | false :: rest => currentRun rest + 1

def TenFailed (outcomes : List Bool) : Prop :=
  ∃ past, past <:+ outcomes ∧ past.take maxFailureCount = List.replicate maxFailureCount false

theorem take_eq_replicate_iff (outcomes : List Bool) (count : ℕ) :
    outcomes.take count = List.replicate count false ↔ count ≤ currentRun outcomes := by
  induction outcomes generalizing count with
  | nil => cases count <;> simp [currentRun, List.replicate_succ]
  | cons outcome rest ih =>
    cases count with
    | zero => simp
    | succ count =>
      cases outcome with
      | true => simp [currentRun, List.replicate_succ]
      | false => simp [currentRun, List.replicate_succ, ih count]

theorem tenFailed_cons_iff (outcome : Bool) (outcomes : List Bool) :
    TenFailed (outcome :: outcomes) ↔
      maxFailureCount ≤ currentRun (outcome :: outcomes) ∨ TenFailed outcomes := by
  constructor
  · rintro ⟨past, hsuffix, hfailed⟩
    rcases List.suffix_cons_iff.mp hsuffix with rfl | hsuffix
    · exact .inl ((take_eq_replicate_iff _ _).mp hfailed)
    · exact .inr ⟨past, hsuffix, hfailed⟩
  · rintro (hrun | ⟨past, hsuffix, hfailed⟩)
    · exact ⟨_, List.suffix_refl _, (take_eq_replicate_iff _ _).mpr hrun⟩
    · exact ⟨past, hsuffix.trans (List.suffix_cons outcome outcomes), hfailed⟩

variable {task retries : ℕ} {outcomes : List Bool} {action : Action} {payload : String}
variable {webhook : Webhook}

theorem TenFailed.cons (failed : TenFailed outcomes) (outcome : Bool) :
    TenFailed (outcome :: outcomes) :=
  (tenFailed_cons_iff outcome outcomes).mpr (.inr failed)

theorem currentRun_lt (never : ¬ TenFailed outcomes) : currentRun outcomes < maxFailureCount := by
  by_contra hrun
  exact never ⟨outcomes, List.suffix_refl outcomes,
    (take_eq_replicate_iff _ _).mpr (Nat.not_lt.mp hrun)⟩

/-! ## Runs -/

abbrev Workers := World Deliveries Task

def AtRest (workers : Workers) : Prop := ∀ task, (workers.locals task).isDisabling = false

/-- The webhook is disabled exactly when ten deliveries failed one after the other, and the counter
of an active webhook is the current run of failures. -/
structure Counted (workers : Workers) : Prop where
  disabled : AtRest workers →
    (workers.shared.webhook.isActive = false ↔ TenFailed workers.shared.outcomes)
  counted : AtRest workers → workers.shared.webhook.isActive = true →
    workers.shared.webhook.failureCount < maxFailureCount ∧
      workers.shared.webhook.failureCount = currentRun workers.shared.outcomes

/-- The copy of a worker has the counter of the row, or its reply resets it, or the webhook is
disabled. -/
def Task.IsFresh (row : Webhook) (reply : Reply) : Task → Prop
  | .posting _ _ webhook _ =>
    reply.success = false → row.isActive = true → webhook.failureCount = row.failureCount
  | _ => True

/-- A failure is written over the counter that its worker has read, while the webhook is active. -/
def Fresh (workers : Workers) : ℕ × Action → Prop
  | (task, .write reply _) => (workers.locals task).IsFresh workers.shared.webhook reply
  | _ => True

instance (row : Webhook) (reply : Reply) : (task : Task) → Decidable (task.IsFresh row reply)
  | .posting _ _ webhook _ =>
    inferInstanceAs (Decidable (reply.success = false → row.isActive = true →
      webhook.failureCount = row.failureCount))
  | .queued .. | .disabling .. | .done => isTrue trivial

instance (workers : Workers) : (event : ℕ × Action) → Decidable (Fresh workers event)
  | (task, .write reply _) =>
    inferInstanceAs (Decidable ((workers.locals task).IsFresh workers.shared.webhook reply))
  | (_, .read) | (_, .disable) => isTrue trivial

/-- What fresh turns keep. -/
structure Tracked (workers : Workers) : Prop where
  counted : workers.shared.webhook.isActive = true → AtRest workers →
    ¬ TenFailed workers.shared.outcomes ∧
      workers.shared.webhook.failureCount = currentRun workers.shared.outcomes
  disabled : workers.shared.webhook.isActive = false → TenFailed workers.shared.outcomes
  disabling : ∀ task, (workers.locals task).isDisabling = true → TenFailed workers.shared.outcomes

section Runs

variable {sign : String → String → String} {workers : Workers}

theorem Tracked.toCounted (tracked : Tracked workers) : Counted workers where
  disabled atRest := by
    refine ⟨tracked.disabled, fun failed => ?_⟩
    by_contra hactive
    exact (tracked.counted (by simpa using hactive) atRest).1 failed
  counted atRest hactive := by
    obtain ⟨never, hcount⟩ := tracked.counted hactive atRest
    exact ⟨hcount ▸ currentRun_lt never, hcount⟩

@[simp]
theorem isDisabling_settle (payload : String) (retries : ℕ) (success : Bool) :
    (settle payload retries success).isDisabling = false := by
  unfold settle
  split <;> rfl

theorem AtRest.before (atRest : AtRest (workers.turn (deliverWebhookTask sign) (task, action)))
    (hbefore : (workers.locals task).isDisabling = false) : AtRest workers := by
  intro other
  by_cases hother : other = task
  · rw [hother]
    exact hbefore
  · have := atRest other
    rwa [World.turn_locals_of_ne workers action hother] at this

/-- A turn that leaves the row and the outcomes alone, of a task that is not between its saves. -/
theorem Tracked.idle (tracked : Tracked workers) {after : Task}
    (hturn : deliverWebhookTask sign task workers.shared (workers.locals task) action =
      (workers.shared, after)) (hafter : after.isDisabling = (workers.locals task).isDisabling) :
    Tracked (workers.turn (deliverWebhookTask sign) (task, action)) := by
  have hshared :
      (workers.turn (deliverWebhookTask sign) (task, action)).shared = workers.shared := by
    rw [World.turn_shared, hturn]
  have hlocals : ∀ other, ((workers.turn (deliverWebhookTask sign) (task, action)).locals
      other).isDisabling = (workers.locals other).isDisabling := by
    intro other
    by_cases hother : other = task
    · rw [hother, World.turn_locals_self, hturn, hafter]
    · rw [World.turn_locals_of_ne workers action hother]
  constructor
  · rw [hshared]
    exact fun hactive atRest => tracked.counted hactive fun other => hlocals other ▸ atRest other
  · rw [hshared]
    exact tracked.disabled
  · rw [hshared]
    exact fun other hother => tracked.disabling other (hlocals other ▸ hother)

theorem Tracked.write (tracked : Tracked workers) {request : Post} {reply : Reply} {now : ℕ}
    (hlocal : workers.locals task = .posting payload retries webhook request)
    (fresh : reply.success = false → workers.shared.webhook.isActive = true →
      webhook.failureCount = workers.shared.webhook.failureCount) :
    Tracked (workers.turn (deliverWebhookTask sign) (task, .write reply now)) := by
  have hbefore : (workers.locals task).isDisabling = false := by rw [hlocal]; rfl
  -- What the counter of the copy says of the outcomes after the reply.
  have hcopy : workers.shared.webhook.isActive = true → AtRest workers →
      (afterReply webhook reply now).failureCount =
        currentRun (reply.success :: workers.shared.outcomes) := by
    intro hactive atRest
    obtain ⟨-, hcount⟩ := tracked.counted hactive atRest
    cases hsuccess : reply.success with
    | true => simp [afterReply, hsuccess, currentRun]
    | false => simp [afterReply, hsuccess, currentRun, fresh hsuccess hactive, hcount]
  have hreached : maxFailureCount ≤ (afterReply webhook reply now).failureCount →
      TenFailed (reply.success :: workers.shared.outcomes) := by
    intro hreached
    by_cases hactive : workers.shared.webhook.isActive = true
    · by_cases atRest : AtRest workers
      · exact (tenFailed_cons_iff _ _).mpr (.inl (hcopy hactive atRest ▸ hreached))
      · obtain ⟨other, hother⟩ := not_forall.mp atRest
        exact (tracked.disabling other (by simpa using hother)).cons _
    · exact (tracked.disabled (by simpa using hactive)).cons _
  have hself : (workers.turn (deliverWebhookTask sign) (task, .write reply now)).locals task =
      if maxFailureCount ≤ (afterReply webhook reply now).failureCount then
        .disabling payload retries reply.success
      else settle payload retries reply.success := by
    rw [World.turn_locals_self, hlocal, deliverWebhookTask]
  have hshared : (workers.turn (deliverWebhookTask sign) (task, .write reply now)).shared =
      { webhook := saveReply workers.shared.webhook (afterReply webhook reply now)
        outcomes := reply.success :: workers.shared.outcomes } := by
    rw [World.turn_shared, hlocal, deliverWebhookTask]
  constructor
  · intro hactive atRest
    have hcount := hcopy (by rw [hshared] at hactive; exact hactive) (atRest.before hbefore)
    have hbelow : ¬ maxFailureCount ≤ (afterReply webhook reply now).failureCount := by
      intro hreached
      have hrest := atRest task
      rw [hself, if_pos hreached] at hrest
      cases hrest
    rw [hshared]
    refine ⟨fun failed => ?_, hcount⟩
    rcases (tenFailed_cons_iff _ _).mp failed with hrun | hearlier
    · exact hbelow (hcount ▸ hrun)
    · rw [hshared] at hactive
      exact (tracked.counted hactive (atRest.before hbefore)).1 hearlier
  · rw [hshared]
    exact fun hdisabled => (tracked.disabled hdisabled).cons _
  · intro other hother
    rw [hshared]
    by_cases heq : other = task
    · rw [heq, hself] at hother
      split at hother
      · rename_i hge
        exact hreached hge
      · rw [isDisabling_settle] at hother
        cases hother
    · rw [World.turn_locals_of_ne workers _ heq] at hother
      exact (tracked.disabling other hother).cons _

theorem Tracked.disable (tracked : Tracked workers) {success : Bool}
    (hlocal : workers.locals task = .disabling payload retries success) :
    Tracked (workers.turn (deliverWebhookTask sign) (task, .disable)) := by
  have failed : TenFailed workers.shared.outcomes := tracked.disabling task (by rw [hlocal]; rfl)
  have hshared : (workers.turn (deliverWebhookTask sign) (task, .disable)).shared =
      { workers.shared with webhook := Webhooks.disable workers.shared.webhook } := by
    rw [World.turn_shared, hlocal, deliverWebhookTask]
  constructor
  · rw [hshared]
    intro hactive
    cases hactive
  · rw [hshared]
    exact fun _ => failed
  · rw [hshared]
    exact fun _ _ => failed

theorem Tracked.turn (tracked : Tracked workers) {event : ℕ × Action}
    (fresh : Fresh workers event) :
    Tracked (workers.turn (deliverWebhookTask sign) event) := by
  obtain ⟨task, action⟩ := event
  cases action with
  | read =>
    cases hlocal : workers.locals task with
    | queued payload retries =>
      cases hactive : workers.shared.webhook.isActive with
      | true =>
        have hturn : deliverWebhookTask sign task workers.shared (workers.locals task) .read =
            (workers.shared, .posting payload retries workers.shared.webhook
              (post sign workers.shared.webhook payload)) := by
          rw [hlocal]
          exact if_pos hactive
        exact tracked.idle hturn (by rw [hlocal]; rfl)
      | false =>
        have hturn : deliverWebhookTask sign task workers.shared (workers.locals task) .read =
            (workers.shared, .done) := by
          rw [hlocal]
          exact if_neg (by simp [hactive])
        exact tracked.idle hturn (by rw [hlocal]; rfl)
    | posting | disabling | done =>
      exact tracked.idle (by rw [hlocal]; rfl) (by rw [hlocal])
  | write reply now =>
    cases hlocal : workers.locals task with
    | posting payload retries webhook request =>
      refine tracked.write hlocal fun hfailed hactive => ?_
      rw [Fresh, hlocal] at fresh
      exact fresh hfailed hactive
    | queued | disabling | done =>
      exact tracked.idle (by rw [hlocal]; rfl) (by rw [hlocal])
  | disable =>
    cases hlocal : workers.locals task with
    | disabling payload retries success => exact tracked.disable hlocal
    | queued | posting | done =>
      exact tracked.idle (by rw [hlocal]; rfl) (by rw [hlocal])

end Runs

def waiting (webhook : Webhook) (payloads : ℕ → String) : Workers where
  shared := { webhook }
  locals task := .queued (payloads task) 0

theorem tracked_waiting (hactive : webhook.isActive = true) (hcount : webhook.failureCount = 0)
    (payloads : ℕ → String) :
    Tracked (waiting webhook payloads) where
  counted _ _ := by
    refine ⟨?_, hcount⟩
    rintro ⟨past, hsuffix, hfailed⟩
    rw [List.suffix_nil.mp hsuffix] at hfailed
    cases hfailed
  disabled hdisabled := by
    rw [show (waiting webhook payloads).shared.webhook.isActive = true from hactive] at hdisabled
    cases hdisabled
  disabling task hdisabling := by cases hdisabling

/--
As long as every failure is written over the counter that its worker has read, the webhook is
disabled exactly when ten deliveries failed one after the other.
-/
theorem always_counted (sign : String → String → String) (webhook : Webhook)
    (hactive : webhook.isActive = true) (hcount : webhook.failureCount = 0)
    (payloads : ℕ → String) (schedule : List (ℕ × Action))
    (fresh :
      Every (World.turn (deliverWebhookTask sign)) Fresh (waiting webhook payloads) schedule) :
    Always (World.turn (deliverWebhookTask sign)) Counted (waiting webhook payloads) schedule :=
  always_of_invariant Tracked (fun _ tracked => tracked.toCounted)
    (fun _ _ tracked fresh => tracked.turn fresh) (tracked_waiting hactive hcount payloads) schedule
    fresh

/-- Two deliveries fail one after the other. -/
theorem always_counted_inTurn :
    Always (World.turn (deliverWebhookTask fun _ _ => "")) Counted (waiting {} fun _ => "{}")
      [(0, .read), (0, .write .requestException 1), (1, .read), (1, .write (.response 500) 2)] :=
  always_counted _ {} rfl rfl _ _ (by decide +kernel)

/-- Two deliveries read the row, and then both fail. -/
theorem not_always_counted_stale :
    ¬ Always (World.turn (deliverWebhookTask fun _ _ => "")) Counted (waiting {} fun _ => "{}")
      [(0, .read), (1, .read), (0, .write .requestException 1), (1, .write (.response 500) 2)] := by
  intro always
  have counted := always.finish
  have hcount := (counted.counted (fun task => ?_) (by decide +kernel)).2
  · revert hcount
    decide +kernel
  · by_cases hzero : task = 0
    · subst hzero
      decide +kernel
    · by_cases hone : task = 1
      · subst hone
        decide +kernel
      · simp [run_cons, run_nil, World.turn, hzero, hone, waiting, Task.isDisabling]

end Kanzan.Webhooks

import Kanzan.Mail.Deliveries

/-!
# Mail that arrives over SMTP

A client sends the same message again until it is told that it has been accepted.  Each attempt
stores a row for one recipient after the other, and hands the task for it to the broker before it
goes on with the next; workers take up these tasks at any time.
-/

namespace Kanzan.Mail

open Support

/-! ## Messages -/

/-- The name and the address in `Name <address>`, split where the name is shortest. -/
def nameAndAddress (text : List Char) : Option (List Char × List Char) :=
  (List.range' 1 text.length).findSome? fun length =>
    match (text.drop length).dropWhile isSpace with
    | '<' :: rest =>
      if (text.take length).all (· ≠ '\n') && 2 ≤ rest.length && rest.getLast? = some '>' &&
          rest.dropLast.all (· ≠ '\n') then
        some (text.take length, rest.dropLast)
      else none
    | _ => none

/-- `parse_sender`. -/
def parseSender (senderRaw : String) : String × String :=
  if senderRaw = "" then ("", "")
  else
    match nameAndAddress (trim isSpace senderRaw.toList) with
    | some (name, address) =>
      (String.ofList (trim (· == '"') (trim isSpace name)), String.ofList (trim isSpace address))
    | none => ("", stripBrackets (strip senderRaw))

/-- What `_ingest` reads of a message; a header that is missing is empty. -/
structure Message where
  sender : String := ""
  subject : String := ""
  messageId : String := ""
  inReplyTo : String := ""
  references : String := ""
  bodyText : String := ""
  rawHeaders : String := ""

/-- A client that has a message to deliver, and the settings that the server goes by. -/
structure Smtp where
  runAllFilters : InboundEmail → Option String
  resolveTenantFromAddress : String → Option Tenant
  baseDomain : String
  mailFrom : String
  /-- The recipients that the client names. -/
  addresses : List String
  message : Message

/-- A row that has been stored for the message. -/
structure Entry where
  id : ℕ
  recipient : String
  messageId : String
deriving DecidableEq

namespace Smtp

variable (smtp : Smtp)

/-- `handle_RCPT`: the recipients that are accepted. -/
def rcptTos : List String :=
  smtp.addresses.filter fun address => (smtp.resolveTenantFromAddress address).isSome

/-- The message id of an attempt; one without a `Message-ID` draws a unique one. -/
def messageId (unique : String) : String :=
  let normalized := normalizeMessageId smtp.message.messageId
  if normalized = "" then s!"smtp-{unique}@{smtp.baseDomain}" else normalized

def inbound (messageId recipient : String) : InboundEmail :=
  let message := smtp.message
  let parsed := parseSender (if message.sender = "" then smtp.mailFrom else message.sender)
  { messageId
    inReplyTo := normalizeMessageId message.inReplyTo
    references := normalizeReferences message.references
    senderEmail := if parsed.2 = "" then smtp.mailFrom else parsed.2
    senderName := parsed.1
    recipientEmail := recipient
    subject := (message.subject.replace "\r" "").replace "\n" " "
    bodyText := message.bodyText
    rawHeaders := message.rawHeaders }

/-- The parts of the system that a worker asks, which agree on the message. -/
def site (site : Site) : Site :=
  { site with
    runAllFilters := smtp.runAllFilters
    resolveTenantFromAddress := smtp.resolveTenantFromAddress }

end Smtp

/-! ## Attempts -/

/-- What is left of an attempt, and the recipients for whom nothing could be queued in it. -/
structure Attempt where
  messageId : String
  rest : List String
  refused : List String := []

/-- Where `_ingest` stands. -/
inductive Stage where
  /-- The client has not been told anything yet, or to try again. -/
  | waiting
  | creating (attempt : Attempt)
  | saving (attempt : Attempt) (entry : Entry)
  | queueing (attempt : Attempt) (entry : Entry)
  | accepted

/-- The mailroom, the tasks that the broker has been given, and what the client has caused. -/
structure Post where
  world : World Mailroom Delivery := opening
  queue : List ℕ := []
  entries : List Entry := []
  stage : Stage := .waiting

inductive PostEvent where
  /-- The client sends the message. -/
  | deliver (unique : String)
  | create (ok : Bool)
  | saveAttachments (ok : Bool)
  | queueProcessing (ok : Bool)
  | answer
  /-- The server dies, or the client is not reached any more. -/
  | drop
  | work (worker : ℕ) (action : Action)

def Attempt.next (attempt : Attempt) : Attempt := { attempt with rest := attempt.rest.tail }

def Attempt.refuse (attempt : Attempt) (recipient : String) : Attempt :=
  { attempt.next with refused := attempt.refused ++ [recipient] }

namespace Post

variable (post : Post)

/-- The task on a row can come to a worker: for the message only if the broker has been given it. -/
def Due (id : ℕ) : Prop :=
  id < post.world.shared.db.emails.length ∧ ∀ entry ∈ post.entries, entry.id = id → id ∈ post.queue

instance (id : ℕ) : Decidable (post.Due id) := inferInstanceAs (Decidable (_ ∧ _))

def insert (smtp : Smtp) (attempt : Attempt) (recipient : String) : Post :=
  let entry : Entry :=
    { id := post.world.shared.db.emails.length, recipient, messageId := attempt.messageId }
  { post with
    world := turn post.world (0, .receive (smtp.inbound attempt.messageId recipient))
    entries := post.entries ++ [entry]
    stage := .saving attempt entry }

end Post

namespace Smtp

variable (smtp : Smtp)

def work (post : Post) (worker : ℕ) : Action → Post
  | .deliver id retries =>
    if post.Due id then { post with world := turn post.world (worker, .deliver id retries) }
    else post
  | .start site => { post with world := turn post.world (worker, .start (smtp.site site)) }
  | action => { post with world := turn post.world (worker, action) }

def step (post : Post) (event : PostEvent) : Post :=
  match event, post.stage with
  | .deliver unique, .waiting =>
    { post with stage := .creating { messageId := smtp.messageId unique, rest := smtp.rcptTos } }
  | .create ok, .creating attempt =>
    match attempt.rest with
    | [] => post
    | recipient :: _ =>
      if ok then post.insert smtp attempt recipient else { post with stage := .waiting }
  | .saveAttachments ok, .saving attempt entry =>
    { post with stage := if ok then .queueing attempt entry else .waiting }
  | .queueProcessing ok, .queueing attempt entry =>
    if ok then
      { post with queue := post.queue ++ [entry.id], stage := .creating attempt.next }
    else { post with stage := .creating (attempt.refuse entry.recipient) }
  | .answer, .creating attempt =>
    if attempt.rest.isEmpty then { post with stage := .accepted } else post
  | .drop, .accepted => post
  | .drop, _ => { post with stage := .waiting }
  | .work worker action, _ => smtp.work post worker action
  | _, _ => post

end Smtp

/-! ## What the client relies on -/

def Claimed (key : String) (db : Db) : Prop :=
  ∃ (id : ℕ) (email : InboundEmail), db.emails[id]? = some email ∧ email.idempotencyKey = some key

namespace Smtp

variable (smtp : Smtp) (post : Post)

def Handed (recipient : String) : Prop :=
  ∀ tenant ∈ smtp.resolveTenantFromAddress recipient, ∃ entry ∈ post.entries,
    entry.id ∈ post.queue ∧ smtp.resolveTenantFromAddress entry.recipient = some tenant

instance (recipient : String) : Decidable (smtp.Handed post recipient) :=
  inferInstanceAs (Decidable (∀ _ ∈ _, _))

def countMade (tenant : Tenant) : ℕ :=
  post.world.shared.made.countP fun made => post.entries.any fun entry =>
    entry.id == made.1 && smtp.resolveTenantFromAddress entry.recipient == some tenant

/-- The message has come to a row for a tenant, and has been filtered, or somebody has claimed its
key, or all attempts have failed. -/
def Processed (db : Db) (entry : Entry) (tenant : Tenant) (email : InboundEmail) : Prop :=
  (smtp.runAllFilters
      { smtp.inbound entry.messageId entry.recipient with status := .processing }).isSome ∨
    Claimed (idemKey tenant entry.messageId) db ∨ email.status = .failed

/-- After the acceptance every tenant has been handed the message; whatever is queued is processed
once it is closed, and only one thing is made of it. -/
structure Delivered : Prop where
  handed : post.stage = .accepted → ∀ recipient ∈ smtp.rcptTos, smtp.Handed post recipient
  processed : ∀ entry ∈ post.entries, ∀ tenant email,
    smtp.resolveTenantFromAddress entry.recipient = some tenant →
      post.world.shared.db.emails[entry.id]? = some email → email.isOpen = false →
        smtp.Processed post.world.shared.db entry tenant email
  once : ∀ tenant, smtp.countMade post tenant ≤ 1

end Smtp

namespace Post

variable (post : Post)

def queueing : PostEvent → Option Entry
  | .queueProcessing true =>
    match post.stage with
    | .queueing _ entry => some entry
    | _ => none
  | _ => none

/-- The recipients of an attempt about to be answered for whom nothing could be queued in it. -/
def answering : PostEvent → List String
  | .answer =>
    match post.stage with
    | .creating attempt => if attempt.rest.isEmpty then attempt.refused else []
    | _ => []
  | _ => []

end Post

/-- Nothing is queued under a second message id for a tenant, and a task that could not be queued
is not missed. -/
structure Smtp.Admits (smtp : Smtp) (post : Post) (event : PostEvent) : Prop where
  sameId : normalizeMessageId smtp.message.messageId = "" → ∀ entry ∈ post.queueing event,
    ∀ other ∈ post.entries, other.id ∈ post.queue →
      ∀ tenant ∈ smtp.resolveTenantFromAddress entry.recipient,
        smtp.resolveTenantFromAddress other.recipient = some tenant →
          other.messageId = entry.messageId
  refused : ∀ recipient ∈ post.answering event, smtp.Handed post recipient

instance (smtp : Smtp) (post : Post) (event : PostEvent) : Decidable (smtp.Admits post event) :=
  decidable_of_iff
    ((normalizeMessageId smtp.message.messageId = "" → ∀ entry ∈ post.queueing event,
      ∀ other ∈ post.entries, other.id ∈ post.queue →
        ∀ tenant ∈ smtp.resolveTenantFromAddress entry.recipient,
          smtp.resolveTenantFromAddress other.recipient = some tenant →
            other.messageId = entry.messageId) ∧
      ∀ recipient ∈ post.answering event, smtp.Handed post recipient)
    ⟨fun h => ⟨h.1, h.2⟩, fun h => ⟨h.sameId, h.refused⟩⟩

/-! ## What a turn does to a row -/

def Delivery.task : Delivery → Option ℕ
  | .idle => none
  | .queued id _ | .running id _ _ _ _ | .exhausted id _ => some id

/-- A run asks what the client knows, and has taken a row for a duplicate only of a claimed one. -/
def Delivery.Told (smtp : Smtp) (room : Mailroom) : Delivery → Prop
  | .running _ _ site inbound duplicate =>
    site.runAllFilters = smtp.runAllFilters ∧
      site.resolveTenantFromAddress = smtp.resolveTenantFromAddress ∧
        (duplicate = true → ∀ tenant, tenantOf site inbound = some tenant →
          Claimed (idemKey tenant inbound.messageId) room.db)
  | _ => True

def Action.Agrees (smtp : Smtp) : Action → Prop
  | .start site => site.runAllFilters = smtp.runAllFilters ∧
      site.resolveTenantFromAddress = smtp.resolveTenantFromAddress
  | _ => True

/-- How a turn closes a row: for a reason that the client knows, or because all attempts have
failed. -/
structure Closes (smtp : Smtp) (db : Db) (email email' : InboundEmail) : Prop where
  isOpen : email'.isOpen = false
  messageId : email'.messageId = email.messageId
  tenant : email'.tenant = email.tenant ∨ email.isOpen = true ∧
    email'.tenant = email.tenant.or (smtp.resolveTenantFromAddress email.recipientEmail)
  key : ∀ key, email.idempotencyKey = some key → email'.idempotencyKey = some key
  reason : email'.status = .failed ∨ email.isOpen = true ∧
    ((smtp.runAllFilters { email with status := .processing }).isSome ∨
      ∀ tenant, email.tenant.or (smtp.resolveTenantFromAddress email.recipientEmail) = some tenant →
        Claimed (idemKey tenant email.messageId) db)

/-- A turn leaves a row alone or closes it. -/
def Follows (smtp : Smtp) (db db' : Db) : Prop :=
  ∀ (id : ℕ) (email : InboundEmail), db.emails[id]? = some email →
    ∃ email', db'.emails[id]? = some email' ∧ (email' = email ∨ Closes smtp db' email email')

variable {action : Action} {attempt : Attempt} {key recipient : String} {room' : Mailroom}
variable {site : Site} {duplicate : Bool} {s : Session}

section Turns

variable {smtp : Smtp} {room : Mailroom} {worker id : ℕ} {delivery : Delivery} {db db' : Db}

theorem Follows.refl (smtp : Smtp) (db : Db) : Follows smtp db db :=
  fun _ email hrow => ⟨email, hrow, .inl rfl⟩

theorem Claimed.follows (claimed : Claimed key db) (follows : Follows smtp db db') :
    Claimed key db' := by
  obtain ⟨id, email, hrow, hkey⟩ := claimed
  obtain ⟨email', hrow', rfl | closes⟩ := follows id email hrow
  · exact ⟨id, email', hrow', hkey⟩
  · exact ⟨id, email', hrow', closes.key key hkey⟩

theorem Delivery.Told.follows (told : delivery.Told smtp room)
    (follows : Follows smtp room.db room'.db) : delivery.Told smtp room' := by
  cases delivery with
  | running id retries site inbound duplicate =>
    obtain ⟨hfilters, hresolve, hduplicate⟩ := told
    refine ⟨hfilters, hresolve, fun h tenant htenant => ?_⟩
    exact (hduplicate h tenant htenant).follows follows
  | idle => trivial
  | queued => trivial
  | exhausted => trivial

theorem claimed_of_isClaimed (hclaimed : isClaimed key id db = true) : Claimed key db := by
  obtain ⟨row, hmem, hclaims⟩ := List.any_eq_true.mp hclaimed
  rw [Bool.and_eq_true, beq_iff_eq] at hclaims
  exact ⟨row.2, row.1, List.mem_zipIdx_iff_getElem?.mp hmem, hclaims.1⟩

theorem processUnguarded_answered {s' : Session}
    (success : processUnguarded site duplicate s = .ok s') :
    (s'.inbound.tenant = s.inbound.tenant ∨ s'.inbound.tenant = tenantOf site s.inbound) ∧
      ((site.runAllFilters s.inbound).isSome ∨ ∀ tenant, tenantOf site s.inbound = some tenant →
        duplicate = true ∨
          s'.inbound.idempotencyKey = some (idemKey tenant s.inbound.messageId)) := by
  unfold processUnguarded at success
  cases hfilter : site.runAllFilters s.inbound with
  | some reason =>
    rw [hfilter] at success
    rw [← Except.ok.inj success]
    refine ⟨?_, .inl rfl⟩
    split
    · exact .inr rfl
    · exact .inl rfl
  | none =>
    rw [hfilter] at success
    dsimp only at success
    cases hresolved : tenantOf site s.inbound with
    | none =>
      rw [hresolved] at success
      rw [← Except.ok.inj success]
      exact ⟨.inl rfl, .inr fun _ h => absurd h (by simp)⟩
    | some tenant =>
      rw [hresolved] at success
      dsimp only at success
      cases duplicate with
      | true =>
        rw [if_pos rfl] at success
        rw [← Except.ok.inj success]
        exact ⟨.inr rfl, .inr fun _ _ => .inl rfl⟩
      | false =>
        rw [if_neg (by simp)] at success
        split at success
        · cases success
        · have handles := handleClaimed_handles success
          refine ⟨.inr handles.tenant, .inr fun other hother => .inr ?_⟩
          rw [← Option.some.inj hother]
          exact handles.idempotencyKey

theorem follows_finish (settled : Settled room) {inbound : InboundEmail}
    (hrow : room.db.emails[id]? = some inbound) (hopen : inbound.isOpen = true) {retries : ℕ}
    (told : (Delivery.running id retries site inbound duplicate).Told smtp room)
    (success : processUnguarded site duplicate
      (({ db := room.db, id, inbound } : Session).save fun inbound =>
        { inbound with status := .processing }) = .ok s) : Follows smtp room.db s.db := by
  obtain ⟨hfilters, hresolve, hduplicate⟩ := told
  obtain ⟨rewrites, hclosed, -⟩ := processUnguarded_cases success
  have begun : Rewrites { db := room.db, id, inbound } s :=
    Rewrites.trans (save_rewrites rfl) rewrites
  obtain ⟨htenant, hreason⟩ := processUnguarded_answered success
  obtain ⟨hlt, -⟩ := List.getElem?_eq_some_iff.mp hrow
  have hself : s.db.emails[id]? = some s.inbound := by
    rw [begun.emails]
    exact List.getElem?_set_self hlt
  have hothers : ∀ other ≠ id, s.db.emails[other]? = room.db.emails[other]? := by
    intro other hother
    rw [begun.emails]
    exact List.getElem?_set_ne (Ne.symm hother)
  have hsite : tenantOf site inbound =
      inbound.tenant.or (smtp.resolveTenantFromAddress inbound.recipientEmail) := by
    rw [tenantOf, hresolve]
  have hunclaimed := settled.unopened id inbound hrow hopen
  intro other email hemail
  by_cases hother : other = id
  · subst hother
    obtain rfl := Option.some.inj (hrow.symm.trans hemail)
    refine ⟨s.inbound, hself, .inr ⟨hclosed, begun.messageId, ?_, ?_, .inr ⟨hopen, ?_⟩⟩⟩
    · rw [← hsite]
      exact htenant.imp id fun h => ⟨hopen, h⟩
    · intro key hkey
      rw [hunclaimed] at hkey
      cases hkey
    · rcases hreason with hfiltered | hclaims
      · rw [hfilters] at hfiltered
        exact .inl hfiltered
      · refine .inr fun tenant hresolved => ?_
        rw [← hsite] at hresolved
        rcases hclaims tenant hresolved with hduplicated | hkey
        · obtain ⟨holder, held, hheld, hkey⟩ := hduplicate hduplicated tenant hresolved
          have hne : holder ≠ other := by
            rintro rfl
            rw [Option.some.inj (hheld.symm.trans hrow), hunclaimed] at hkey
            cases hkey
          exact ⟨holder, held, (hothers holder hne).trans hheld, hkey⟩
        · exact ⟨other, s.inbound, hself, hkey⟩
  · exact ⟨email, (hothers other hother).trans hemail, .inl rfl⟩

theorem follows_markFailed (message : String) :
    Follows smtp db (markInboundFailed id message db) := by
  intro other email hemail
  unfold markInboundFailed
  by_cases hother : id = other
  · subst hother
    refine ⟨{ email with status := .failed, errorMessage := message }, ?_, .inr
      ⟨rfl, rfl, .inl rfl, fun _ hkey => hkey, .inl rfl⟩⟩
    rw [List.getElem?_modify_eq, hemail]
    rfl
  · exact ⟨email, (List.getElem?_modify_ne _ _ hother).trans hemail, .inl rfl⟩

/-- What a turn of a worker changes. -/
structure Turned (smtp : Smtp) (room room' : Mailroom) (delivery delivery' : Delivery)
    (action : Action) : Prop where
  follows : Follows smtp room.db room'.db
  told : delivery'.Told smtp room'
  task : ∀ id ∈ delivery'.task, id ∈ delivery.task ∨ ∃ retries, action = .deliver id retries
  made : ∀ made ∈ room'.made, made ∈ room.made ∨ made.1 ∈ delivery.task

theorem afterFailure_task (id retries : ℕ) (message : String) :
    (afterFailure id retries message).task = some id := by
  unfold afterFailure
  split <;> rfl

theorem afterFailure_told (id retries : ℕ) (message : String) :
    (afterFailure id retries message).Told smtp room := by
  unfold afterFailure
  split <;> trivial

theorem Turned.stop {delivery' : Delivery} (hdb : room'.db = room.db)
    (hmade : room'.made = room.made) (told : delivery'.Told smtp room')
    (htask : delivery'.task = none ∨ delivery'.task = delivery.task) :
    Turned smtp room room' delivery delivery' action where
  follows := hdb ▸ Follows.refl smtp room.db
  told := told
  task id hmem := by
    rcases htask with hnone | hsame
    · rw [hnone] at hmem
      cases hmem
    · rw [hsame] at hmem
      exact .inl hmem
  made made hmem := .inl (hmade ▸ hmem)

theorem act_turned (settled : Settled room) (holds : delivery.Holds worker room)
    (told : delivery.Told smtp room) (agrees : action.Agrees smtp) :
    Turned smtp room (act worker room delivery action).1 delivery
      (act worker room delivery action).2 action := by
  have stay : Turned smtp room room delivery delivery action := .stop rfl rfl told (.inr rfl)
  cases action with
  | receive inbound =>
    have follows : Follows smtp room.db
        { room.db with emails := room.db.emails ++ [inbound.unprocessed] } :=
      fun id email hrow => ⟨email, getElem?_concat_eq_some.mpr (.inl hrow), .inl rfl⟩
    exact
      { follows
        told := told.follows follows
        task := fun _ hmem => .inl hmem
        made := fun _ hmem => .inl hmem }
  | deliver id retries =>
    cases delivery with
    | idle =>
      refine ⟨Follows.refl smtp room.db, trivial, fun other hmem => .inr ⟨retries, ?_⟩,
        fun _ hmem => .inl hmem⟩
      rw [Option.some.inj hmem]
    | queued => exact stay
    | running => exact stay
    | exhausted => exact stay
  | start site =>
    cases delivery with
    | idle => exact stay
    | running => exact stay
    | exhausted => exact stay
    | queued id retries =>
      dsimp only [act]
      split
      · split
        · exact .stop rfl rfl (afterFailure_told _ _ _) (.inr (afterFailure_task _ _ _))
        · rename_i inbound hrow
          split
          · exact .stop rfl rfl trivial (.inl rfl)
          · refine .stop rfl rfl ?_ (.inr rfl)
            refine ⟨agrees.1, agrees.2, fun hfound tenant htenant => ?_⟩
            rw [findsDuplicate, htenant] at hfound
            exact claimed_of_isClaimed hfound
      · exact stay
  | finish =>
    cases delivery with
    | idle => exact stay
    | queued => exact stay
    | exhausted => exact stay
    | running id retries site inbound duplicate =>
      dsimp only [act]
      split
      · exact .stop rfl rfl (afterFailure_told _ _ _) (.inr (afterFailure_task _ _ _))
      · rename_i s success
        refine ⟨follows_finish settled holds.2.1 holds.2.2 told success, trivial, ?_, ?_⟩
        · intro other hmem
          cases hmem
        · intro made hmem
          rcases List.mem_append.mp hmem with hmem | hmem
          · exact .inl hmem
          · obtain ⟨creation, -, rfl⟩ := List.mem_map.mp hmem
            exact .inr rfl
  | fail message =>
    cases delivery with
    | idle => exact stay
    | queued => exact stay
    | exhausted => exact stay
    | running =>
      exact .stop rfl rfl (afterFailure_told _ _ _) (.inr (afterFailure_task _ _ _))
  | crash => exact .stop rfl rfl trivial (.inl rfl)
  | markFailed =>
    cases delivery with
    | idle => exact stay
    | queued => exact stay
    | running => exact stay
    | exhausted id message =>
      dsimp only [act]
      split
      · refine ⟨follows_markFailed message, trivial, ?_, fun _ hmem => .inl hmem⟩
        intro other hmem
        cases hmem
      · exact stay

theorem sound_told (smtp : Smtp) :
    World.Sound act (fun _ event => event.2.Agrees smtp) Settled fun worker room delivery =>
      delivery.Holds worker room ∧ delivery.Told smtp room where
  own _ worker action keeps agrees := by
    obtain ⟨holds, told⟩ := keeps.locals worker
    obtain ⟨settled, holds', -⟩ := act_sound keeps.shared holds action
    exact ⟨settled, holds', (act_turned keeps.shared holds told agrees).told⟩
  others _ worker action other keeps agrees hother := by
    obtain ⟨holds, told⟩ := keeps.locals worker
    obtain ⟨holds', told'⟩ := keeps.locals other
    obtain ⟨-, -, spares⟩ := act_sound keeps.shared holds action
    exact ⟨holds'.spared hother spares,
      told'.follows (act_turned keeps.shared holds told agrees).follows⟩

end Turns

/-! ## What every step keeps -/

namespace Smtp

variable (smtp : Smtp)

/-- A row for the message is as it was stored, or it is closed and has been processed. -/
def Stands (db : Db) (entry : Entry) : Prop :=
  ∃ email, db.emails[entry.id]? = some email ∧
    (email = smtp.inbound entry.messageId entry.recipient ∨
      email.isOpen = false ∧ email.messageId = entry.messageId ∧
        (email.tenant = none ∨ email.tenant = smtp.resolveTenantFromAddress entry.recipient) ∧
          ∀ tenant, smtp.resolveTenantFromAddress entry.recipient = some tenant →
            smtp.Processed db entry tenant email)

def Identifies (messageId : String) : Prop :=
  normalizeMessageId smtp.message.messageId ≠ "" →
    messageId = normalizeMessageId smtp.message.messageId

/-- An attempt has still to come to the recipients for whom nothing has been queued, or has failed
to queue it. -/
structure Pursues (post : Post) (attempt : Attempt) : Prop where
  identifies : smtp.Identifies attempt.messageId
  covers : ∀ recipient ∈ smtp.rcptTos,
    recipient ∈ attempt.rest ∨ recipient ∈ attempt.refused ∨ smtp.Handed post recipient

def Covers (post : Post) : Stage → Prop
  | .waiting => True
  | .creating attempt => smtp.Pursues post attempt
  | .saving attempt entry | .queueing attempt entry =>
    smtp.Pursues post attempt ∧ entry ∈ post.entries ∧
      ∃ rest, attempt.rest = entry.recipient :: rest
  | .accepted => ∀ recipient ∈ smtp.rcptTos, smtp.Handed post recipient

end Smtp

/-- What the rows, the tasks and the attempt have to do with each other. -/
structure Tracks (smtp : Smtp) (post : Post) : Prop where
  keeps : World.Keeps Settled (fun worker room delivery =>
    Delivery.Holds worker room delivery ∧ Delivery.Told smtp room delivery) post.world
  stands : ∀ entry ∈ post.entries, smtp.Stands post.world.shared.db entry
  identifies : ∀ entry ∈ post.entries, smtp.Identifies entry.messageId
  unique : ∀ first ∈ post.entries, ∀ second ∈ post.entries, first.id = second.id → first = second
  queued : ∀ id ∈ post.queue, id < post.world.shared.db.emails.length
  tasks : ∀ worker, ∀ id ∈ (post.world.locals worker).task, post.Due id
  made : ∀ made ∈ post.world.shared.made, post.Due made.1
  sameId : ∀ first ∈ post.entries, ∀ second ∈ post.entries, first.id ∈ post.queue →
    second.id ∈ post.queue → ∀ tenant, smtp.resolveTenantFromAddress first.recipient = some tenant →
      smtp.resolveTenantFromAddress second.recipient = some tenant →
        first.messageId = second.messageId
  stage : smtp.Covers post post.stage

section Steps

variable {smtp : Smtp} {post post' : Post} {db db' : Db} {entry : Entry}

theorem Smtp.Stands.follows (stands : smtp.Stands db entry) (follows : Follows smtp db db') :
    smtp.Stands db' entry := by
  obtain ⟨email, hrow, hstands⟩ := stands
  obtain ⟨email', hrow', rfl | closes⟩ := follows entry.id email hrow
  · refine ⟨email', hrow', hstands.imp id fun ⟨hclosed, hid, howner, hprocessed⟩ => ?_⟩
    exact ⟨hclosed, hid, howner, fun tenant htenant => (hprocessed tenant htenant).imp id
      (Or.imp (fun claimed => claimed.follows follows) id)⟩
  · refine ⟨email', hrow', .inr ⟨closes.isOpen, ?_⟩⟩
    rcases hstands with rfl | ⟨hclosed, hid, howner, -⟩
    · refine ⟨closes.messageId, closes.tenant.imp id And.right, fun tenant htenant => ?_⟩
      rcases closes.reason with hfailed | ⟨-, hfiltered | hclaims⟩
      · exact .inr (.inr hfailed)
      · exact .inl hfiltered
      · exact .inr (.inl (hclaims tenant htenant))
    · refine ⟨closes.messageId.trans hid, ?_, fun tenant _ => ?_⟩
      · rcases closes.tenant with hsame | ⟨hopen, -⟩
        · rw [hsame]
          exact howner
        · rw [hclosed] at hopen
          cases hopen
      · rcases closes.reason with hfailed | ⟨hopen, -⟩
        · exact .inr (.inr hfailed)
        · rw [hclosed] at hopen
          cases hopen

theorem Smtp.Handed.mono (handed : smtp.Handed post recipient)
    (hentries : post.entries ⊆ post'.entries) (hqueue : post.queue ⊆ post'.queue) :
    smtp.Handed post' recipient := by
  intro tenant htenant
  obtain ⟨entry, hmem, hqueued, howner⟩ := handed tenant htenant
  exact ⟨entry, hentries hmem, hqueue hqueued, howner⟩

theorem Smtp.Pursues.mono (pursues : smtp.Pursues post attempt)
    (hentries : post.entries ⊆ post'.entries) (hqueue : post.queue ⊆ post'.queue) :
    smtp.Pursues post' attempt where
  identifies := pursues.identifies
  covers recipient hmem := (pursues.covers recipient hmem).imp id
    (Or.imp id fun handed => handed.mono hentries hqueue)

theorem Smtp.Covers.mono {stage : Stage} (covers : smtp.Covers post stage)
    (hentries : post.entries ⊆ post'.entries) (hqueue : post.queue ⊆ post'.queue) :
    smtp.Covers post' stage := by
  cases stage with
  | waiting => trivial
  | creating => exact Pursues.mono covers hentries hqueue
  | saving => exact ⟨covers.1.mono hentries hqueue, hentries covers.2.1, covers.2.2⟩
  | queueing => exact ⟨covers.1.mono hentries hqueue, hentries covers.2.1, covers.2.2⟩
  | accepted => exact fun recipient hmem => (covers recipient hmem).mono hentries hqueue

theorem Tracks.goOn (tracks : Tracks smtp post) (stage : Stage) (covers : smtp.Covers post stage) :
    Tracks smtp { post with stage } :=
  { tracks with stage := covers.mono (fun _ h => h) fun _ h => h }

theorem length_le_of_follows (follows : Follows smtp db db') :
    db.emails.length ≤ db'.emails.length := by
  by_contra hlt
  obtain ⟨email', hrow', -⟩ := follows db'.emails.length _
    (List.getElem?_eq_getElem (Nat.lt_of_not_le hlt))
  rw [List.getElem?_eq_none (Nat.le_refl _)] at hrow'
  cases hrow'

theorem Tracks.turn (tracks : Tracks smtp post) (worker : ℕ) (agrees : action.Agrees smtp)
    (hdue : ∀ id retries, action = .deliver id retries → post.Due id) :
    Tracks smtp { post with world := turn post.world (worker, action) } := by
  obtain ⟨holds, told⟩ := tracks.keeps.locals worker
  have turned := act_turned tracks.keeps.shared holds told agrees
  have hlength := length_le_of_follows turned.follows
  have due : ∀ id, post.Due id →
      Post.Due { post with world := Mail.turn post.world (worker, action) } id :=
    fun id h => ⟨Nat.lt_of_lt_of_le h.1 hlength, h.2⟩
  refine
    { keeps := (sound_told smtp).turn tracks.keeps agrees
      stands := fun entry hmem => (tracks.stands entry hmem).follows turned.follows
      identifies := tracks.identifies
      unique := tracks.unique
      queued := fun id hmem => Nat.lt_of_lt_of_le (tracks.queued id hmem) hlength
      tasks := fun other id hmem => due id ?_
      made := fun made hmem => due made.1 ?_
      sameId := tracks.sameId
      stage := tracks.stage.mono (fun _ h => h) fun _ h => h }
  · by_cases hother : other = worker
    · subst hother
      rw [Mail.turn, World.turn_locals_self] at hmem
      rcases turned.task id hmem with hbefore | ⟨retries, hdeliver⟩
      · exact tracks.tasks other id hbefore
      · exact hdue id retries hdeliver
    · rw [Mail.turn, World.turn_locals_of_ne _ _ hother] at hmem
      exact tracks.tasks other id hmem
  · rcases turned.made made hmem with hbefore | hmade
    · exact tracks.made made hbefore
    · exact tracks.tasks worker made.1 hmade

theorem Tracks.work (tracks : Tracks smtp post) (worker : ℕ) (action : Action) :
    Tracks smtp (smtp.work post worker action) := by
  cases action with
  | deliver id retries =>
    dsimp only [Smtp.work]
    split
    · rename_i hdue
      exact tracks.turn worker trivial fun _ _ h => (Action.deliver.inj h).1 ▸ hdue
    · exact tracks
  | start site => exact tracks.turn worker ⟨rfl, rfl⟩ fun _ _ h => by cases h
  | receive inbound => exact tracks.turn worker trivial fun _ _ h => by cases h
  | finish => exact tracks.turn worker trivial fun _ _ h => by cases h
  | fail message => exact tracks.turn worker trivial fun _ _ h => by cases h
  | crash => exact tracks.turn worker trivial fun _ _ h => by cases h
  | markFailed => exact tracks.turn worker trivial fun _ _ h => by cases h

/-- A row is stored that no task knows of yet. -/
theorem Tracks.insert (tracks : Tracks smtp post) {rest : List String}
    (pursues : smtp.Pursues post attempt) (hrest : attempt.rest = recipient :: rest) :
    Tracks smtp (post.insert smtp attempt recipient) := by
  have agrees : (Action.receive (smtp.inbound attempt.messageId recipient)).Agrees smtp := trivial
  have received := tracks.turn 0 agrees fun _ _ h => by cases h
  have hgrows : post.entries ⊆ (post.insert smtp attempt recipient).entries :=
    List.subset_append_left _ _
  have hemails : (post.insert smtp attempt recipient).world.shared.db.emails =
      post.world.shared.db.emails ++ [smtp.inbound attempt.messageId recipient] := rfl
  have hrows : ∀ other ∈ post.entries, other.id < post.world.shared.db.emails.length := by
    intro other hmem
    obtain ⟨email, hrow, -⟩ := tracks.stands other hmem
    exact (List.getElem?_eq_some_iff.mp hrow).1
  have hdue : ∀ id, post.Due id → (post.insert smtp attempt recipient).Due id := by
    intro id due
    have hlt := due.1
    refine ⟨?_, fun other hmem hid => ?_⟩
    · rw [hemails, List.length_append]
      exact Nat.lt_add_right _ hlt
    · rcases List.mem_append.mp hmem with hmem | hmem
      · exact due.2 other hmem hid
      · obtain rfl := List.mem_singleton.mp hmem
        exact absurd hid (Nat.ne_of_gt hlt)
  have hold : ∀ other ∈ (post.insert smtp attempt recipient).entries, other.id ∈ post.queue →
      other ∈ post.entries := by
    intro other hmem hqueued
    rcases List.mem_append.mp hmem with hmem | hmem
    · exact hmem
    · obtain rfl := List.mem_singleton.mp hmem
      exact absurd rfl (Nat.ne_of_lt (tracks.queued _ hqueued))
  refine
    { keeps := received.keeps
      stands := fun other hmem => ?_
      identifies := fun other hmem => ?_
      unique := fun first hfirst second hsecond hid => ?_
      queued := received.queued
      tasks := fun worker id hmem => ?_
      made := fun made hmem => hdue made.1 (tracks.made made hmem)
      sameId := fun first hfirst second hsecond hqueued hqueued' => tracks.sameId first
        (hold first hfirst hqueued) second (hold second hsecond hqueued') hqueued hqueued'
      stage := ⟨pursues.mono hgrows fun _ h => h, List.mem_append_right _ List.mem_cons_self,
        rest, hrest⟩ }
  · rcases List.mem_append.mp hmem with hmem | hmem
    · exact received.stands other hmem
    · obtain rfl := List.mem_singleton.mp hmem
      refine ⟨smtp.inbound attempt.messageId recipient, ?_, .inl rfl⟩
      rw [hemails]
      exact List.getElem?_concat_length
  · rcases List.mem_append.mp hmem with hmem | hmem
    · exact tracks.identifies other hmem
    · obtain rfl := List.mem_singleton.mp hmem
      exact pursues.identifies
  · rcases List.mem_append.mp hfirst with hfirst | hfirst <;>
      rcases List.mem_append.mp hsecond with hsecond | hsecond
    · exact tracks.unique first hfirst second hsecond hid
    · obtain rfl := List.mem_singleton.mp hsecond
      exact absurd hid (Nat.ne_of_lt (hrows first hfirst))
    · obtain rfl := List.mem_singleton.mp hfirst
      exact absurd hid.symm (Nat.ne_of_lt (hrows second hsecond))
    · rw [List.mem_singleton.mp hfirst, List.mem_singleton.mp hsecond]
  · refine hdue id (tracks.tasks worker id ?_)
    by_cases hworker : worker = 0
    · subst hworker
      rw [Post.insert, Mail.turn, World.turn_locals_self] at hmem
      exact hmem
    · rw [Post.insert, Mail.turn, World.turn_locals_of_ne _ _ hworker] at hmem
      exact hmem

/-- A task is queued: no other task for the tenant is for a row with another message id. -/
theorem Tracks.queue (tracks : Tracks smtp post) {entry : Entry}
    (hstage : post.stage = .queueing attempt entry)
    (admits : smtp.Admits post (.queueProcessing true)) :
    Tracks smtp
      { post with queue := post.queue ++ [entry.id], stage := .creating attempt.next } := by
  have hcovers := tracks.stage
  rw [hstage] at hcovers
  obtain ⟨pursues, hentry, rest, hrest⟩ := hcovers
  have hgrows : post.queue ⊆ post.queue ++ [entry.id] := List.subset_append_left _ _
  have hqueueing : entry ∈ post.queueing (.queueProcessing true) := by
    rw [Post.queueing, hstage]
    rfl
  have hsame : ∀ other ∈ post.entries, other.id ∈ post.queue → ∀ tenant,
      smtp.resolveTenantFromAddress entry.recipient = some tenant →
        smtp.resolveTenantFromAddress other.recipient = some tenant →
          other.messageId = entry.messageId := by
    intro other hother hqueued tenant howner howner'
    by_cases hid : normalizeMessageId smtp.message.messageId = ""
    · exact admits.sameId hid entry hqueueing other hother hqueued tenant howner howner'
    · rw [tracks.identifies other hother hid, tracks.identifies entry hentry hid]
  have hcases : ∀ other ∈ post.entries, other.id ∈ post.queue ++ [entry.id] →
      other.id ∈ post.queue ∨ other = entry := by
    intro other hother hqueued
    rcases List.mem_append.mp hqueued with hqueued | hqueued
    · exact .inl hqueued
    · exact .inr (tracks.unique other hother entry hentry (List.mem_singleton.mp hqueued))
  refine
    { keeps := tracks.keeps
      stands := tracks.stands
      identifies := tracks.identifies
      unique := tracks.unique
      queued := fun id hmem => ?_
      tasks := fun worker id hmem => ⟨(tracks.tasks worker id hmem).1,
        fun other hother hid => hgrows ((tracks.tasks worker id hmem).2 other hother hid)⟩
      made := fun made hmem => ⟨(tracks.made made hmem).1,
        fun other hother hid => hgrows ((tracks.made made hmem).2 other hother hid)⟩
      sameId := fun first hfirst second hsecond hqueued hqueued' tenant howner howner' => ?_
      stage := ⟨pursues.identifies, fun recipient hmem => ?_⟩ }
  · rcases List.mem_append.mp hmem with hmem | hmem
    · exact tracks.queued id hmem
    · obtain ⟨email, hrow, -⟩ := tracks.stands entry hentry
      rw [List.mem_singleton.mp hmem]
      exact (List.getElem?_eq_some_iff.mp hrow).1
  · rcases hcases first hfirst hqueued with hfirst' | rfl
    · rcases hcases second hsecond hqueued' with hsecond' | rfl
      · exact tracks.sameId first hfirst second hsecond hfirst' hsecond' tenant howner howner'
      · exact hsame first hfirst hfirst' tenant howner' howner
    · rcases hcases second hsecond hqueued' with hsecond' | rfl
      · exact (hsame second hsecond hsecond' tenant howner howner').symm
      · rfl
  · rcases pursues.covers recipient hmem with hleft | hrefused | handed
    · rw [hrest] at hleft
      rcases List.mem_cons.mp hleft with rfl | htail
      · refine .inr (.inr fun tenant htenant => ⟨entry, hentry, ?_, htenant⟩)
        exact List.mem_append_right _ List.mem_cons_self
      · refine .inl ?_
        rw [Attempt.next, hrest]
        exact htail
    · exact .inr (.inl hrefused)
    · exact .inr (.inr (handed.mono (fun _ h => h) hgrows))

/-- Every step keeps rows, tasks and attempt together. -/
theorem Tracks.step (tracks : Tracks smtp post) {event : PostEvent}
    (admits : smtp.Admits post event) : Tracks smtp (smtp.step post event) := by
  have hcovers := tracks.stage
  unfold Smtp.step
  split
  case h_1 unique _ =>
    refine tracks.goOn (.creating _) ⟨fun hid => ?_, fun recipient hmem => .inl hmem⟩
    rw [Smtp.messageId, if_neg hid]
  case h_2 ok attempt hstage =>
    rw [hstage] at hcovers
    cases hrest : attempt.rest with
    | nil => exact tracks
    | cons recipient rest =>
      cases ok with
      | true => exact tracks.insert hcovers hrest
      | false => exact tracks.goOn .waiting trivial
  case h_3 ok attempt entry hstage =>
    rw [hstage] at hcovers
    cases ok with
    | true => exact tracks.goOn (.queueing attempt entry) hcovers
    | false => exact tracks.goOn .waiting trivial
  case h_4 ok attempt entry hstage =>
    cases ok with
    | true => exact tracks.queue hstage admits
    | false =>
      rw [hstage] at hcovers
      obtain ⟨pursues, hentry, rest, hrest⟩ := hcovers
      refine tracks.goOn (.creating _) ⟨pursues.identifies, fun recipient hmem => ?_⟩
      rcases pursues.covers recipient hmem with hleft | hrefused | handed
      · rw [hrest] at hleft
        rcases List.mem_cons.mp hleft with rfl | htail
        · exact .inr (.inl (List.mem_append_right _ List.mem_cons_self))
        · refine .inl ?_
          rw [Attempt.refuse, Attempt.next, hrest]
          exact htail
      · exact .inr (.inl (List.mem_append_left _ hrefused))
      · exact .inr (.inr handed)
  case h_5 attempt hstage =>
    rw [hstage] at hcovers
    cases hrest : attempt.rest with
    | cons => exact tracks
    | nil =>
      refine tracks.goOn .accepted fun recipient hmem => ?_
      rcases hcovers.covers recipient hmem with hleft | hrefused | handed
      · rw [hrest] at hleft
        cases hleft
      · refine admits.refused recipient ?_
        rw [Post.answering, hstage]
        simpa only [hrest, List.isEmpty_nil, if_true] using hrefused
      · exact handed
  case h_6 => exact tracks
  case h_7 => exact tracks.goOn .waiting trivial
  case h_8 worker action => exact tracks.work worker action
  case h_9 => exact tracks

/-- The client gets what it relies on. -/
theorem Tracks.delivered (tracks : Tracks smtp post) : smtp.Delivered post where
  handed haccepted := by
    have hcovers := tracks.stage
    rw [haccepted] at hcovers
    exact hcovers
  processed entry hentry tenant email howner hrow hclosed := by
    obtain ⟨found, hfound, hstands⟩ := tracks.stands entry hentry
    obtain rfl := Option.some.inj (hrow.symm.trans hfound)
    rcases hstands with rfl | ⟨-, -, -, hprocessed⟩
    · cases hclosed
    · exact hprocessed tenant howner
  once tenant := by
    -- all that is counted is made for rows under one message id, for which it is made once
    have hcounted : ∀ made ∈ post.world.shared.made, (post.entries.any fun entry =>
        entry.id == made.1 && smtp.resolveTenantFromAddress entry.recipient == some tenant) = true →
          ∃ entry ∈ post.entries, entry.id ∈ post.queue ∧
            smtp.resolveTenantFromAddress entry.recipient = some tenant ∧
              ∃ email, post.world.shared.db.emails[made.1]? = some email ∧
                email.tenant = some tenant ∧ email.messageId = entry.messageId := by
      intro made hmem hany
      obtain ⟨entry, hentry, hboth⟩ := List.any_eq_true.mp hany
      rw [Bool.and_eq_true, beq_iff_eq, beq_iff_eq] at hboth
      obtain ⟨hid, howner⟩ := hboth
      have hqueued := (tracks.made made hmem).2 entry hentry hid
      obtain ⟨email, owner, hrow, hclosed, hnamed, -⟩ := tracks.keeps.shared.made made hmem
      obtain ⟨found, hfound, hstands⟩ := tracks.stands entry hentry
      rw [hid] at hfound
      obtain rfl := Option.some.inj (hrow.symm.trans hfound)
      refine ⟨entry, hentry, hid ▸ hqueued, howner, email, hrow, ?_⟩
      rcases hstands with rfl | ⟨-, hmessage, hnobody | hresolved, -⟩
      · cases hclosed
      · rw [hnobody] at hnamed
        cases hnamed
      · exact ⟨hresolved.trans howner, hmessage⟩
    rw [Smtp.countMade]
    by_cases hnone : ∃ made ∈ post.world.shared.made, (post.entries.any fun entry =>
        entry.id == made.1 && smtp.resolveTenantFromAddress entry.recipient == some tenant) = true
    · obtain ⟨first, hfirst, hany⟩ := hnone
      obtain ⟨entry, hentry, hqueued, howner, -⟩ := hcounted first hfirst hany
      refine Nat.le_trans ?_ (tracks.keeps.shared.atMostOnce.made tenant entry.messageId)
      refine List.countP_mono_left fun made hmem hmade => ?_
      obtain ⟨other, hother, hqueued', howner', email, hrow, hnamed, hmessage⟩ :=
        hcounted made hmem hmade
      have hsame := tracks.sameId other hother entry hentry hqueued' hqueued tenant howner' howner
      rw [hrow, Option.any_some, Bool.and_eq_true, beq_iff_eq, beq_iff_eq]
      exact ⟨hnamed, hmessage.trans hsame⟩
    · rw [List.countP_eq_zero.mpr fun made hmem hmade => hnone ⟨made, hmem, hmade⟩]
      exact Nat.zero_le 1

theorem tracks_empty (smtp : Smtp) : Tracks smtp {} where
  keeps := ⟨keeps_opening.shared, fun _ => ⟨trivial, trivial⟩⟩
  stands _ hmem := absurd hmem List.not_mem_nil
  identifies _ hmem := absurd hmem List.not_mem_nil
  unique _ hmem := absurd hmem List.not_mem_nil
  queued _ hmem := absurd hmem List.not_mem_nil
  tasks _ _ hmem := absurd hmem (Option.not_mem_none _)
  made _ hmem := absurd hmem List.not_mem_nil
  sameId _ hmem := absurd hmem List.not_mem_nil
  stage := trivial

end Steps

/--
However often the message is sent again, and whatever fails or is worked on meanwhile: when no
task that could not be queued is missed at the acceptance, and without a `Message-ID` no second
one is queued for a tenant, each tenant has been handed the message and makes one thing of it at
most.
-/
theorem smtp_delivered (smtp : Smtp) (events : List PostEvent)
    (admitted : Every smtp.step smtp.Admits {} events) :
    Always smtp.step smtp.Delivered {} events :=
  always_of_invariant (Tracks smtp) (fun _ => Tracks.delivered)
    (fun _ _ tracks admits => tracks.step admits) (tracks_empty smtp) events admitted

/-- A client with one recipient, which is an address of the only tenant. -/
def plainSmtp : Smtp where
  runAllFilters _ := none
  resolveTenantFromAddress _ := some { pk := 1, slug := "acme" }
  baseDomain := "localhost"
  mailFrom := "ann@example.org"
  addresses := ["acme@localhost"]
  message := { bodyText := "It is broken." }

/-- The message is accepted, and the task for it is queued. -/
theorem smtp_delivered_accepted :
    let events : List PostEvent := [.deliver "a1", .create true, .saveAttachments true,
      .queueProcessing true, .answer]
    (run plainSmtp.step {} events).queue = [0] ∧
      Always plainSmtp.step plainSmtp.Delivered {} events :=
  ⟨rfl, smtp_delivered plainSmtp _ (by decide +kernel)⟩

/-- The task cannot be queued, and the client is told that the message has been accepted. -/
theorem not_smtp_delivered :
    ¬ ∀ (smtp : Smtp) (events : List PostEvent), Always smtp.step smtp.Delivered {} events := by
  intro hall
  have hlast := (hall plainSmtp [.deliver "a1", .create true, .saveAttachments true,
    .queueProcessing false, .answer]).finish.handed rfl "acme@localhost" (by decide +kernel)
  revert hlast
  decide +kernel

end Kanzan.Mail

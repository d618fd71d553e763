import Kanzan.Mail.ServiceLaws
import Kanzan.Support.Lists
import Kanzan.Support.Processes

/-!
# Deliveries of the processing task

Workers take deliveries of `process_inbound_email_task`, each email any number of times.  A run
locks its row for the length of its transaction; the check for duplicates comes before the claim of
the key, with any turns of others between them.
-/

namespace Kanzan.Mail

open Support

/-! ## The workers -/

/-- The tables, the locks on emails, and what runs have made for them. -/
structure Mailroom where
  db : Db := {}
  locks : Locks ℕ := fun _ => none
  made : List (ℕ × Creation) := []

/-- What a worker is doing. -/
inductive Delivery where
  | idle
  | queued (id retries : ℕ)
  /-- Inside the transaction, with the row as it was locked and the answer of the check. -/
  | running (id retries : ℕ) (site : Site) (inbound : InboundEmail) (duplicate : Bool)
  /-- The last attempt has failed. -/
  | exhausted (id : ℕ) (message : String)

inductive Action where
  /-- A new email is stored. -/
  | receive (inbound : InboundEmail)
  /-- The broker hands out the task for an email, once more or for the first time. -/
  | deliver (id retries : ℕ)
  | start (site : Site)
  | finish
  /-- Something else raises in the transaction. -/
  | fail (message : String)
  /-- The worker dies. -/
  | crash
  | markFailed

def InboundEmail.unprocessed (inbound : InboundEmail) : InboundEmail :=
  { inbound with status := .pending, ticket := none, idempotencyKey := none }

/-- `max_retries` of the task. -/
def maxRetries : ℕ := 3

def afterFailure (id retries : ℕ) (message : String) : Delivery :=
  if maxRetries ≤ retries then .exhausted id message else .queued id (retries + 1)

def Mailroom.release (room : Mailroom) (worker : ℕ) : Mailroom :=
  { room with locks := room.locks.keep worker fun _ => false }

def act (worker : ℕ) (room : Mailroom) (delivery : Delivery) : Action → Mailroom × Delivery
  | .receive inbound =>
    ({ room with db := { room.db with emails := room.db.emails ++ [inbound.unprocessed] } }, delivery)
  | .deliver id retries =>
    match delivery with
    | .idle => (room, .queued id retries)
    | _ => (room, delivery)
  | .start site =>
    match delivery with
    | .queued id retries =>
      if room.locks.free worker id then
        match room.db.emails[id]? with
        | none => (room, afterFailure id retries "InboundEmail matching query does not exist.")
        | some inbound =>
          if !inbound.isOpen then (room, .idle)
          else
            ({ room with locks := room.locks.take worker id },
              .running id retries site inbound (findsDuplicate site id inbound room.db))
      else (room, delivery)
    | _ => (room, delivery)
  | .finish =>
    match delivery with
    | .running id retries site inbound duplicate =>
      let begun : Session := { db := room.db, id, inbound }
      match processUnguarded site duplicate
          (begun.save fun inbound => { inbound with status := .processing }) with
      | .error message => (room.release worker, afterFailure id retries message)
      | .ok s =>
        ({ room with db := s.db, made := room.made ++ s.created.map (Prod.mk id) }.release worker,
          .idle)
    | _ => (room, delivery)
  | .fail message =>
    match delivery with
    | .running id retries _ _ _ => (room.release worker, afterFailure id retries message)
    | _ => (room, delivery)
  | .crash => (room.release worker, .idle)
  | .markFailed =>
    match delivery with
    | .exhausted id message =>
      if room.locks.free worker id then
        ({ room with db := markInboundFailed id message room.db }, .idle)
      else (room, delivery)
    | _ => (room, delivery)

abbrev turn : World Mailroom Delivery → ℕ × Action → World Mailroom Delivery := World.turn act

def opening : World Mailroom Delivery where
  shared := {}
  locals _ := .idle

/-! ## At most once -/

/-- The emails of a tenant under a message id that have become something. -/
def countHandled (tenant : Tenant) (messageId : String) (db : Db) : ℕ :=
  db.emails.countP fun email =>
    email.tenant == some tenant && email.messageId == messageId && email.isHandled

def countMade (tenant : Tenant) (messageId : String) (room : Mailroom) : ℕ :=
  room.made.countP fun made => (room.db.emails[made.1]?).any fun email =>
    email.tenant == some tenant && email.messageId == messageId

/-- No message of a tenant is handled twice, and nothing is made that is not counted. -/
structure AtMostOnce (room : Mailroom) : Prop where
  handled : ∀ tenant messageId, countHandled tenant messageId room.db ≤ 1
  made : ∀ tenant messageId, countMade tenant messageId room ≤ 1
  tickets : room.db.tickets.length = (room.made.map Prod.snd).count .ticket
  comments : room.db.comments.length = (room.made.map Prod.snd).count .reply
  hubEmails : room.db.hubEmails.length = (room.made.map Prod.snd).count .hubEmail

/-- What the rows say of what has been made. -/
structure Settled (room : Mailroom) : Prop where
  keys : ∀ (id other : ℕ) (inbound email : InboundEmail) (key : String),
    room.db.emails[id]? = some inbound → room.db.emails[other]? = some email →
      inbound.idempotencyKey = some key → email.idempotencyKey = some key → other = id
  unopened : ∀ (id : ℕ) (inbound : InboundEmail), room.db.emails[id]? = some inbound →
    inbound.isOpen = true → inbound.idempotencyKey = none
  handled : ∀ (id : ℕ) (inbound : InboundEmail), room.db.emails[id]? = some inbound →
    inbound.isHandled = true → ∃ tenant, inbound.tenant = some tenant ∧
      inbound.idempotencyKey = some (idemKey tenant inbound.messageId)
  made : ∀ made ∈ room.made, ∃ inbound tenant, room.db.emails[made.1]? = some inbound ∧
    inbound.isOpen = false ∧ inbound.tenant = some tenant ∧
      inbound.idempotencyKey = some (idemKey tenant inbound.messageId)
  once : (room.made.map Prod.fst).Nodup
  tickets : room.db.tickets.length = (room.made.map Prod.snd).count .ticket
  comments : room.db.comments.length = (room.made.map Prod.snd).count .reply
  hubEmails : room.db.hubEmails.length = (room.made.map Prod.snd).count .hubEmail

def Delivery.Holds (worker : ℕ) (room : Mailroom) : Delivery → Prop
  | .running id _ _ inbound _ =>
    room.locks id = some worker ∧ room.db.emails[id]? = some inbound ∧ inbound.isOpen = true
  | _ => True

section Rows

variable {room room' : Mailroom} {id : ℕ} {inbound inbound' : InboundEmail} {worker : ℕ}

/-- The claim follows from what the rows say. -/
theorem Settled.atMostOnce (settled : Settled room) : AtMostOnce room where
  handled tenant messageId := by
    refine countP_le_one fun i j first second hfirst hsecond hmeets hmeets' => ?_
    simp only [Bool.and_eq_true, beq_iff_eq] at hmeets hmeets'
    obtain ⟨owner, howner, hkey⟩ := settled.handled i first hfirst hmeets.2
    obtain ⟨owner', howner', hkey'⟩ := settled.handled j second hsecond hmeets'.2
    obtain rfl := Option.some.inj (howner.symm.trans hmeets.1.1)
    obtain rfl := Option.some.inj (howner'.symm.trans hmeets'.1.1)
    rw [hmeets.1.2] at hkey
    rw [hmeets'.1.2] at hkey'
    exact settled.keys j i second first _ hsecond hfirst hkey' hkey
  made tenant messageId := by
    refine countP_le_one fun i j first second hfirst hsecond hmeets hmeets' => ?_
    have hrow : ∀ made ∈ room.made, ((room.db.emails[made.1]?).any fun email =>
        email.tenant == some tenant && email.messageId == messageId) = true →
          ∃ inbound, room.db.emails[made.1]? = some inbound ∧
            inbound.idempotencyKey = some (idemKey tenant messageId) := by
      intro made hmem hmeets
      obtain ⟨inbound, owner, hrow, -, howner, hkey⟩ := settled.made made hmem
      rw [hrow, Option.any_some, Bool.and_eq_true, beq_iff_eq, beq_iff_eq] at hmeets
      obtain rfl := Option.some.inj (howner.symm.trans hmeets.1)
      exact ⟨inbound, hrow, hmeets.2 ▸ hkey⟩
    obtain ⟨inbound, hrow₁, hkey₁⟩ := hrow first (List.mem_of_getElem? hfirst) hmeets
    obtain ⟨email, hrow₂, hkey₂⟩ := hrow second (List.mem_of_getElem? hsecond) hmeets'
    have hsame := settled.keys second.1 first.1 email inbound _ hrow₂ hrow₁ hkey₂ hkey₁
    have hfirst' : (room.made.map Prod.fst)[i]? = some first.1 := by
      rw [List.getElem?_map, hfirst, Option.map_some]
    have hsecond' : (room.made.map Prod.fst)[j]? = some first.1 := by
      rw [List.getElem?_map, hsecond, Option.map_some, hsame]
    obtain ⟨hi, -⟩ := List.getElem?_eq_some_iff.mp hfirst'
    exact (List.getElem?_inj hi settled.once).mp (hfirst'.trans hsecond'.symm)
  tickets := settled.tickets
  comments := settled.comments
  hubEmails := settled.hubEmails

theorem Settled.receive (settled : Settled room) (inbound : InboundEmail) :
    Settled { room with
      db := { room.db with emails := room.db.emails ++ [inbound.unprocessed] } } where
  keys id other first second key hfirst hsecond hkey hkey' := by
    rcases getElem?_concat_eq_some.mp hfirst with hfirst | ⟨-, rfl⟩
    · rcases getElem?_concat_eq_some.mp hsecond with hsecond | ⟨-, rfl⟩
      · exact settled.keys id other first second key hfirst hsecond hkey hkey'
      · cases hkey'
    · cases hkey
  unopened id email hrow hopen := by
    rcases getElem?_concat_eq_some.mp hrow with hrow | ⟨-, rfl⟩
    · exact settled.unopened id email hrow hopen
    · rfl
  handled id email hrow hhandled := by
    rcases getElem?_concat_eq_some.mp hrow with hrow | ⟨-, rfl⟩
    · exact settled.handled id email hrow hhandled
    · cases hhandled
  made made hmem := by
    obtain ⟨email, tenant, hrow, hclosed⟩ := settled.made made hmem
    exact ⟨email, tenant, getElem?_concat_eq_some.mpr (.inl hrow), hclosed⟩
  once := settled.once
  tickets := settled.tickets
  comments := settled.comments
  hubEmails := settled.hubEmails

theorem getElem?_set_eq_some {other : ℕ} {email : InboundEmail}
    (hrow : room.db.emails[id]? = some inbound)
    (hemails : room'.db.emails = room.db.emails.set id inbound') :
    room'.db.emails[other]? = some email ↔
      other = id ∧ email = inbound' ∨ other ≠ id ∧ room.db.emails[other]? = some email := by
  rw [hemails]
  by_cases hother : other = id
  · subst hother
    obtain ⟨hlt, -⟩ := List.getElem?_eq_some_iff.mp hrow
    simp [List.getElem?_set_self hlt, eq_comm]
  · simp [List.getElem?_set_ne (Ne.symm hother), hother]

theorem Settled.turnAway (settled : Settled room) (hrow : room.db.emails[id]? = some inbound)
    (hemails : room'.db.emails = room.db.emails.set id inbound')
    (hkey : inbound'.idempotencyKey = inbound.idempotencyKey)
    (howner : inbound.idempotencyKey ≠ none →
      inbound'.tenant = inbound.tenant ∧ inbound'.messageId = inbound.messageId)
    (hclosed : inbound'.isOpen = false) (hunhandled : inbound'.isHandled = false)
    (hmade : room'.made = room.made) (htickets : room'.db.tickets.length = room.db.tickets.length)
    (hcomments : room'.db.comments.length = room.db.comments.length)
    (hhubEmails : room'.db.hubEmails.length = room.db.hubEmails.length) : Settled room' where
  keys first second email email' key hfirst hsecond hkey₁ hkey₂ := by
    have hbefore : ∀ {other : ℕ} {email : InboundEmail}, room'.db.emails[other]? = some email →
        email.idempotencyKey = some key → ∃ before : InboundEmail,
          room.db.emails[other]? = some before ∧ before.idempotencyKey = some key := by
      intro other email hafter hkey'
      rcases (getElem?_set_eq_some hrow hemails).mp hafter with ⟨rfl, rfl⟩ | ⟨-, hsame⟩
      · exact ⟨inbound, hrow, hkey ▸ hkey'⟩
      · exact ⟨email, hsame, hkey'⟩
    obtain ⟨before, hrow₁, hbefore₁⟩ := hbefore hfirst hkey₁
    obtain ⟨before', hrow₂, hbefore₂⟩ := hbefore hsecond hkey₂
    exact settled.keys first second before before' key hrow₁ hrow₂ hbefore₁ hbefore₂
  unopened other email hafter hopen := by
    rcases (getElem?_set_eq_some hrow hemails).mp hafter with ⟨rfl, rfl⟩ | ⟨-, hsame⟩
    · rw [hclosed] at hopen
      cases hopen
    · exact settled.unopened other email hsame hopen
  handled other email hafter hhandled := by
    rcases (getElem?_set_eq_some hrow hemails).mp hafter with ⟨rfl, rfl⟩ | ⟨-, hsame⟩
    · rw [hunhandled] at hhandled
      cases hhandled
    · exact settled.handled other email hsame hhandled
  made made hmem := by
    rw [hmade] at hmem
    obtain ⟨email, tenant, hbefore, hopen, htenant, hclaimed⟩ := settled.made made hmem
    by_cases hsame : made.1 = id
    · rw [hsame, hrow] at hbefore
      obtain rfl := Option.some.inj hbefore
      have howned : inbound.idempotencyKey ≠ none := by
        rw [hclaimed]
        nofun
      refine ⟨inbound', tenant, (getElem?_set_eq_some hrow hemails).mpr (.inl ⟨hsame, rfl⟩), hclosed,
        (howner howned).1.trans htenant, ?_⟩
      rw [hkey, hclaimed, (howner howned).2]
    · exact ⟨email, tenant, (getElem?_set_eq_some hrow hemails).mpr (.inr ⟨hsame, hbefore⟩), hopen,
        htenant, hclaimed⟩
  once := hmade ▸ settled.once
  tickets := by rw [htickets, hmade, settled.tickets]
  comments := by rw [hcomments, hmade, settled.comments]
  hubEmails := by rw [hhubEmails, hmade, settled.hubEmails]

theorem Settled.claim (settled : Settled room) (hrow : room.db.emails[id]? = some inbound)
    (hopen : inbound.isOpen = true) (hemails : room'.db.emails = room.db.emails.set id inbound')
    (hclosed : inbound'.isOpen = false) {tenant : Tenant} (htenant : inbound'.tenant = some tenant)
    (hkey : inbound'.idempotencyKey = some (idemKey tenant inbound'.messageId))
    (unclaimed : Unclaimed (idemKey tenant inbound'.messageId) id room.db)
    {created : List Creation} (hcreated : created.length ≤ 1)
    (hmade : room'.made = room.made ++ created.map (Prod.mk id))
    (htickets : room'.db.tickets.length = room.db.tickets.length + created.count .ticket)
    (hcomments : room'.db.comments.length = room.db.comments.length + created.count .reply)
    (hhubEmails : room'.db.hubEmails.length = room.db.hubEmails.length + created.count .hubEmail) :
    Settled room' where
  keys first second email email' key hfirst hsecond hkey₁ hkey₂ := by
    rcases (getElem?_set_eq_some hrow hemails).mp hfirst with ⟨rfl, rfl⟩ | ⟨hfirst', hsame₁⟩
    · obtain rfl := Option.some.inj (hkey.symm.trans hkey₁)
      rcases (getElem?_set_eq_some hrow hemails).mp hsecond with ⟨rfl, -⟩ | ⟨hsecond', hsame₂⟩
      · rfl
      · exact unclaimed second email' hsame₂ hkey₂
    · rcases (getElem?_set_eq_some hrow hemails).mp hsecond with ⟨rfl, rfl⟩ | ⟨hsecond', hsame₂⟩
      · obtain rfl := Option.some.inj (hkey.symm.trans hkey₂)
        exact absurd (unclaimed first email hsame₁ hkey₁) hfirst'
      · exact settled.keys first second email email' key hsame₁ hsame₂ hkey₁ hkey₂
  unopened other email hafter hopen' := by
    rcases (getElem?_set_eq_some hrow hemails).mp hafter with ⟨rfl, rfl⟩ | ⟨-, hsame⟩
    · rw [hclosed] at hopen'
      cases hopen'
    · exact settled.unopened other email hsame hopen'
  handled other email hafter hhandled := by
    rcases (getElem?_set_eq_some hrow hemails).mp hafter with ⟨rfl, rfl⟩ | ⟨-, hsame⟩
    · exact ⟨tenant, htenant, hkey⟩
    · exact settled.handled other email hsame hhandled
  made made hmem := by
    rw [hmade, List.mem_append] at hmem
    rcases hmem with hmem | hmem
    · obtain ⟨email, owner, hbefore, hclosed', howned⟩ := settled.made made hmem
      have hother : made.1 ≠ id := by
        intro hsame
        rw [hsame, hrow] at hbefore
        rw [← Option.some.inj hbefore, hopen] at hclosed'
        cases hclosed'
      exact ⟨email, owner, (getElem?_set_eq_some hrow hemails).mpr (.inr ⟨hother, hbefore⟩), hclosed',
        howned⟩
    · obtain ⟨creation, -, rfl⟩ := List.mem_map.mp hmem
      exact ⟨inbound', tenant, (getElem?_set_eq_some hrow hemails).mpr (.inl ⟨rfl, rfl⟩), hclosed,
        htenant, hkey⟩
  once := by
    rw [hmade, List.map_append, List.map_map]
    have hids : created.map (Prod.fst ∘ Prod.mk id) = List.replicate created.length id :=
      List.map_const'
    rw [hids]
    refine List.nodup_append.mpr ⟨settled.once, List.nodup_replicate.mpr hcreated, ?_⟩
    rintro other hother last hlast rfl
    obtain ⟨made, hmem, hsame⟩ := List.mem_map.mp hother
    obtain ⟨email, owner, hbefore, hclosed', -⟩ := settled.made made hmem
    rw [hsame, List.eq_of_mem_replicate hlast, hrow] at hbefore
    rw [← Option.some.inj hbefore, hopen] at hclosed'
    cases hclosed'
  tickets := by
    rw [htickets, hmade, settled.tickets, List.map_append, List.count_append, List.map_map]
    exact congrArg _ (congrArg _ created.map_id.symm)
  comments := by
    rw [hcomments, hmade, settled.comments, List.map_append, List.count_append, List.map_map]
    exact congrArg _ (congrArg _ created.map_id.symm)
  hubEmails := by
    rw [hhubEmails, hmade, settled.hubEmails, List.map_append, List.count_append, List.map_map]
    exact congrArg _ (congrArg _ created.map_id.symm)

end Rows

/-! ## Turns -/

section Turns

variable {room room' : Mailroom} {worker other : ℕ} {delivery : Delivery}

/-- A worker leaves alone what others have locked. -/
structure Spares (worker : ℕ) (room room' : Mailroom) : Prop where
  locks : Locks.Respects worker room.locks room'.locks
  emails : ∀ (id holder : ℕ) (inbound : InboundEmail), holder ≠ worker →
    room.locks id = some holder → room.db.emails[id]? = some inbound →
      room'.db.emails[id]? = some inbound

theorem Delivery.Holds.spared (holds : delivery.Holds other room) (hother : other ≠ worker)
    (spares : Spares worker room room') : delivery.Holds other room' := by
  cases delivery with
  | running id retries site inbound duplicate =>
    obtain ⟨hlock, hrow, hopen⟩ := holds
    exact ⟨spares.locks id other hother hlock, spares.emails id other inbound hother hlock hrow, hopen⟩
  | idle => trivial
  | queued => trivial
  | exhausted => trivial

theorem Spares.refl (worker : ℕ) (room : Mailroom) : Spares worker room room where
  locks := Locks.Respects.refl worker room.locks
  emails _ _ _ _ _ hrow := hrow

theorem Spares.release : Spares worker room (room.release worker) where
  locks := Locks.keep_respects
  emails _ _ _ _ _ hrow := hrow

theorem afterFailure_holds (id retries : ℕ) (message : String) :
    (afterFailure id retries message).Holds worker room := by
  unfold afterFailure
  split <;> trivial

theorem Settled.release (settled : Settled room) : Settled (room.release worker) :=
  ⟨settled.keys, settled.unopened, settled.handled, settled.made, settled.once, settled.tickets,
    settled.comments, settled.hubEmails⟩

theorem Settled.finish (settled : Settled room) {id : ℕ} {site : Site} {inbound : InboundEmail}
    {duplicate : Bool} {s : Session} (hrow : room.db.emails[id]? = some inbound)
    (hopen : inbound.isOpen = true)
    (success : processUnguarded site duplicate
      (({ db := room.db, id, inbound } : Session).save fun inbound =>
        { inbound with status := .processing }) = .ok s) :
    Settled { room with db := s.db, made := room.made ++ s.created.map (Prod.mk id) } := by
  obtain ⟨rewrites, hclosed, hcases⟩ := processUnguarded_cases success
  have begun : Rewrites { db := room.db, id, inbound } s :=
    Rewrites.trans (save_rewrites rfl) rewrites
  have hkey := settled.unopened id inbound hrow hopen
  rcases hcases with ⟨hkey', hunhandled, hnothing⟩ | ⟨tenant, htenant, hkey', unclaimed, hcreated⟩
  · have hcreated : s.created = [] := hnothing
    refine settled.turnAway hrow begun.emails hkey' (fun howned => absurd hkey howned) hclosed hunhandled
      ?_ ?_ ?_ ?_
    · simp [hcreated]
    · simpa [hcreated] using begun.tickets
    · simpa [hcreated] using begun.comments
    · simpa [hcreated] using begun.hubEmails
  · refine settled.claim hrow hopen begun.emails hclosed htenant hkey' ?_ hcreated rfl ?_ ?_ ?_
    · exact (unclaimed_save (s := { db := room.db, id, inbound }) _ _).mp unclaimed
    · simpa using begun.tickets
    · simpa using begun.comments
    · simpa using begun.hubEmails

theorem Settled.markFailed (settled : Settled room) (id : ℕ) (message : String) :
    Settled { room with db := markInboundFailed id message room.db } := by
  cases hrow : room.db.emails[id]? with
  | none =>
    unfold markInboundFailed
    rw [List.modify_eq_set_getElem?, hrow]
    exact settled
  | some inbound =>
    have hemails : (markInboundFailed id message room.db).emails =
        room.db.emails.set id { inbound with status := .failed, errorMessage := message } := by
      unfold markInboundFailed
      rw [List.modify_eq_set_getElem?, hrow]
      rfl
    exact settled.turnAway hrow hemails rfl (fun _ => ⟨rfl, rfl⟩) rfl rfl rfl rfl rfl rfl

/-- A turn keeps what the rows say, the run of the worker and what others have locked. -/
theorem act_sound (settled : Settled room) (holds : delivery.Holds worker room) (action : Action) :
    Settled (act worker room delivery action).1 ∧
      (act worker room delivery action).2.Holds worker (act worker room delivery action).1 ∧
        Spares worker room (act worker room delivery action).1 := by
  have hstay : Settled room ∧ delivery.Holds worker room ∧ Spares worker room room :=
    ⟨settled, holds, Spares.refl worker room⟩
  cases action with
  | receive inbound =>
    have hkept : ∀ (id : ℕ) (email : InboundEmail), room.db.emails[id]? = some email →
        (room.db.emails ++ [inbound.unprocessed])[id]? = some email :=
      fun id email hrow => getElem?_concat_eq_some.mpr (.inl hrow)
    refine ⟨settled.receive inbound, ?_,
      ⟨Locks.Respects.refl _ _, fun id _ email _ _ hrow => hkept id email hrow⟩⟩
    cases delivery with
    | running id retries site email duplicate =>
      exact ⟨holds.1, hkept id email holds.2.1, holds.2.2⟩
    | idle => trivial
    | queued => trivial
    | exhausted => trivial
  | deliver id retries =>
    cases delivery with
    | idle => exact ⟨settled, trivial, Spares.refl worker room⟩
    | queued => exact hstay
    | running => exact hstay
    | exhausted => exact hstay
  | start site =>
    cases delivery with
    | idle => exact hstay
    | running => exact hstay
    | exhausted => exact hstay
    | queued id retries =>
      dsimp only [act]
      split
      · rename_i hfree
        split
        · exact ⟨settled, afterFailure_holds _ _ _, Spares.refl worker room⟩
        · rename_i inbound hrow
          split
          · exact ⟨settled, trivial, Spares.refl worker room⟩
          · rename_i hopen
            refine ⟨⟨settled.keys, settled.unopened, settled.handled, settled.made, settled.once,
              settled.tickets, settled.comments, settled.hubEmails⟩,
              ⟨Locks.take_self, hrow, by simpa using hopen⟩, Locks.take_respects hfree, ?_⟩
            exact fun _ _ _ _ _ hrow => hrow
      · exact hstay
  | finish =>
    cases delivery with
    | idle => exact hstay
    | queued => exact hstay
    | exhausted => exact hstay
    | running id retries site inbound duplicate =>
      obtain ⟨hlock, hrow, hopen⟩ := holds
      dsimp only [act]
      split
      · exact ⟨settled.release, afterFailure_holds _ _ _, Spares.release⟩
      · rename_i s success
        refine ⟨(settled.finish hrow hopen success).release, trivial, Locks.keep_respects, ?_⟩
        intro other holder email hholder hheld hemail
        have hother : other ≠ id := by
          rintro rfl
          exact hholder (Option.some.inj (hheld.symm.trans hlock))
        obtain ⟨rewrites, -⟩ := processUnguarded_cases success
        have begun : Rewrites { db := room.db, id, inbound } s :=
          Rewrites.trans (save_rewrites rfl) rewrites
        exact (congrArg (·[other]?) begun.emails).trans
          ((List.getElem?_set_ne (Ne.symm hother)).trans hemail)
  | fail message =>
    cases delivery with
    | idle => exact hstay
    | queued => exact hstay
    | exhausted => exact hstay
    | running => exact ⟨settled.release, afterFailure_holds _ _ _, Spares.release⟩
  | crash => exact ⟨settled.release, trivial, Spares.release⟩
  | markFailed =>
    cases delivery with
    | idle => exact hstay
    | queued => exact hstay
    | running => exact hstay
    | exhausted id message =>
      dsimp only [act]
      split
      · rename_i hfree
        refine ⟨settled.markFailed id message, trivial, Locks.Respects.refl _ _, ?_⟩
        intro other holder email hholder hheld hemail
        have hother : id ≠ other := by
          rintro rfl
          rw [Locks.not_free_of_held hholder hheld] at hfree
          cases hfree
        exact (List.getElem?_modify_ne _ _ hother).trans hemail
      · exact hstay

theorem sound_turns (Admits : World Mailroom Delivery → ℕ × Action → Prop) :
    World.Sound act Admits Settled fun worker room delivery => delivery.Holds worker room where
  own _ worker action keeps _ := by
    obtain ⟨settled, holds, -⟩ := act_sound keeps.shared (keeps.locals worker) action
    exact ⟨settled, holds⟩
  others _ worker action other keeps _ hother := by
    obtain ⟨-, -, spares⟩ := act_sound keeps.shared (keeps.locals worker) action
    exact (keeps.locals other).spared hother spares

theorem keeps_opening :
    World.Keeps Settled (fun worker room delivery => Delivery.Holds worker room delivery) opening where
  shared :=
    { keys := fun _ _ _ _ _ hrow => nomatch hrow
      unopened := fun _ _ hrow => nomatch hrow
      handled := fun _ _ hrow => nomatch hrow
      made := fun _ hmem => nomatch hmem
      once := List.nodup_nil
      tickets := rfl
      comments := rfl
      hubEmails := rfl }
  locals _ := trivial

/-- Whatever is received, delivered, retried or broken off, each message of a tenant is handled
at most once, and at most one thing is made for it. -/
theorem always_atMostOnce (events : List (ℕ × Action)) :
    Always turn (fun world => AtMostOnce world.shared) opening events :=
  always_of_invariant
    (World.Keeps Settled fun worker room delivery => delivery.Holds worker room)
    (fun _ keeps => keeps.shared.atMostOnce)
    (fun _ _ keeps _ => (sound_turns fun _ _ => True).turn keeps trivial)
    keeps_opening events (every_of_forall (fun _ _ => trivial) _ _)

end Turns

end Kanzan.Mail

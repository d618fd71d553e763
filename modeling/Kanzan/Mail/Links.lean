import Kanzan.Mail.ServiceLaws
import Kanzan.Support.Lists

/-!
# Links between emails and tickets

An email is linked to tickets of its own tenant only, and a look-up by message id finds the newest
link.
-/

namespace Kanzan.Mail

open Support

/-! ## Look-ups -/

def answer (tenant : Tenant) (messageId : String) (email : InboundEmail) : Option ℕ :=
  if email.tenant = some tenant ∧ email.messageId = messageId then email.ticket else none

theorem linkedTo_eq_newest (tenant : Tenant) (messageId : String) (db : Db) :
    linkedTo tenant messageId db = newest (db.emails.map (answer tenant messageId)) := by
  unfold linkedTo linkedEmail
  rw [find?_reverse_bind]
  · congr 2
    funext email
    rw [answer]
    cases hticket : email.ticket <;> simp
  · intro email hmatches
    rw [Bool.and_eq_true] at hmatches
    exact hmatches.2

/-- An email under a message id that is linked to a ticket. -/
structure Link where
  position : ℕ
  tenant : Tenant
  messageId : String
  ticket : ℕ
deriving DecidableEq

def linkOf (position : ℕ) (email : InboundEmail) : Option Link :=
  match email.tenant, email.ticket with
  | some tenant, some ticket => some { position, tenant, messageId := email.messageId, ticket }
  | _, _ => none

def Link.IsNewest (link : Link) (db : Db) : Prop :=
  linkedTo link.tenant link.messageId { db with emails := db.emails.drop (link.position + 1) } = none

def Link.Answers (link : Link) (tenant : Tenant) (messageId : String) (db : Db) : Prop :=
  link.tenant = tenant ∧ link.messageId = messageId ∧ link.IsNewest db

/-- What changes for the look-ups when an email is linked: the link is found if it is the newest. -/
structure Links (db db' : Db) (link : Option Link) : Prop where
  found : ∀ made ∈ link, ∀ tenant messageId, made.Answers tenant messageId db →
    linkedTo tenant messageId db' = some made.ticket
  other : ∀ tenant messageId, (∀ made ∈ link, ¬ made.Answers tenant messageId db) →
    linkedTo tenant messageId db' = linkedTo tenant messageId db

section Rows

variable {db db' : Db} {id : ℕ} {email email' : InboundEmail}

theorem linkOf_eq_some {link : Link} (hlink : linkOf id email = some link) :
    email.tenant = some link.tenant ∧ email.ticket = some link.ticket ∧
      email.messageId = link.messageId ∧ link.position = id := by
  unfold linkOf at hlink
  split at hlink
  · rename_i htenant hticket
    obtain rfl := Option.some.inj hlink
    exact ⟨htenant, hticket, rfl, rfl⟩
  · cases hlink

theorem Links.refl (hemails : db'.emails = db.emails) : Links db db' none where
  found made hmem := absurd hmem (Option.not_mem_none made)
  other tenant messageId _ := by
    rw [linkedTo_eq_newest, linkedTo_eq_newest, hemails]

/-- A new row. -/
theorem Links.append (email : InboundEmail) (hemails : db'.emails = db.emails ++ [email]) :
    Links db db' (linkOf db.emails.length email) where
  found made hmem tenant messageId answers := by
    obtain ⟨htenant, hticket, hid, -⟩ := linkOf_eq_some hmem
    obtain ⟨rfl, rfl, -⟩ := answers
    rw [linkedTo_eq_newest, hemails, List.map_append, List.map_singleton, newest_concat, answer,
      if_pos ⟨htenant, hid⟩, hticket, Option.some_or]
  other tenant messageId hnone := by
    rw [linkedTo_eq_newest, linkedTo_eq_newest, hemails, List.map_append, List.map_singleton,
      newest_concat]
    have hanswer : answer tenant messageId email = none := by
      rw [answer]
      split
      · rename_i hrow
        cases hticket : email.ticket with
        | none => rfl
        | some ticket =>
          let made : Link :=
            { position := db.emails.length, tenant, messageId := email.messageId, ticket }
          have hmade : made ∈ linkOf db.emails.length email := by
            simp [linkOf, hrow.1, hticket, made]
          have isNewest : made.IsNewest db := by
            rw [Link.IsNewest, linkedTo_eq_newest, List.drop_of_length_le (Nat.le_succ _)]
            rfl
          exact absurd ⟨rfl, hrow.2, isNewest⟩ (hnone made hmade)
      · rfl
    rw [hanswer, Option.none_or]

theorem Links.set (hrow : db.emails[id]? = some email) (hemails : db'.emails = db.emails.set id email')
    (hid : email'.messageId = email.messageId)
    (htenant : ∀ tenant, email.tenant = some tenant → email'.tenant = some tenant)
    (hticket : email'.ticket = none → email.ticket = none) :
    Links db db' (linkOf id email') := by
  obtain ⟨hlt, hget⟩ := List.getElem?_eq_some_iff.mp hrow
  have hset : ∀ tenant messageId, linkedTo tenant messageId db' =
      (newest ((db.emails.drop (id + 1)).map (answer tenant messageId))).or
        ((answer tenant messageId email').or
          (newest ((db.emails.take id).map (answer tenant messageId)))) := by
    intro tenant messageId
    rw [linkedTo_eq_newest, hemails, List.map_set, newest_set (by simpa using hlt), List.map_drop,
      List.map_take]
  have hbefore : ∀ tenant messageId, linkedTo tenant messageId db =
      (newest ((db.emails.drop (id + 1)).map (answer tenant messageId))).or
        ((answer tenant messageId email).or
          (newest ((db.emails.take id).map (answer tenant messageId)))) := by
    intro tenant messageId
    have hsame : newest ((db.emails.map (answer tenant messageId)).set id
        (answer tenant messageId email)) = _ := newest_set (by simpa using hlt) _
    rw [← List.map_set, List.map_drop.symm, List.map_take.symm] at hsame
    rw [linkedTo_eq_newest, ← hsame, ← hget, List.set_getElem_self]
  constructor
  · intro made hmem tenant messageId answers
    obtain ⟨hmade, hlinked, hmessage, hposition⟩ := linkOf_eq_some hmem
    obtain ⟨rfl, rfl, isNewest⟩ := answers
    rw [Link.IsNewest, linkedTo_eq_newest, hposition] at isNewest
    rw [hset, isNewest, Option.none_or, answer, if_pos ⟨hmade, hmessage⟩, hlinked, Option.some_or]
  · intro tenant messageId hnone
    rw [hset, hbefore]
    cases hnewer : newest ((db.emails.drop (id + 1)).map (answer tenant messageId)) with
    | some ticket => rw [Option.some_or, Option.some_or]
    | none =>
      have hunlinked : ∀ ticket, email'.tenant = some tenant → email'.messageId = messageId →
          email'.ticket ≠ some ticket := by
        intro ticket hmade hmessage hlinked
        refine hnone { position := id, tenant, messageId := email'.messageId, ticket } ?_
          ⟨rfl, hmessage, ?_⟩
        · simp [linkOf, hmade, hlinked]
        · rw [Link.IsNewest, linkedTo_eq_newest]
          rw [← hmessage] at hnewer
          exact hnewer
      have hsame : answer tenant messageId email' = answer tenant messageId email := by
        rw [answer, answer]
        by_cases hrow' : email.tenant = some tenant ∧ email.messageId = messageId
        · have hmade := htenant tenant hrow'.1
          have hnone' : email'.ticket = none :=
            Option.eq_none_iff_forall_ne_some.mpr fun ticket =>
              hunlinked ticket hmade (hid.trans hrow'.2)
          rw [if_pos hrow', if_pos ⟨hmade, hid.trans hrow'.2⟩, hnone', hticket hnone']
        · rw [if_neg hrow']
          split
          · rename_i hmade
            exact Option.eq_none_iff_forall_ne_some.mpr fun ticket =>
              hunlinked ticket hmade.1 hmade.2
          · rfl
      rw [hsame]

end Rows

/-! ## Owners -/

/-- Emails are linked to tickets of their tenant, and hub emails belong to the tenant of theirs. -/
structure Owned (db : Db) : Prop where
  tickets : ∀ email ∈ db.emails, ∀ ticket, email.ticket = some ticket →
    ∃ row, db.tickets[ticket]? = some row ∧ email.tenant = some row.tenant
  hubEmails : ∀ hubEmail ∈ db.hubEmails, ∃ email, db.emails[hubEmail.inbound]? = some email ∧
    email.tenant = some hubEmail.tenant

/-- An email is matched to tickets of the tenant only. -/
def Isolated (db : Db) : Prop :=
  ∀ tenant inbound ticket, findExistingTicket tenant inbound db = some ticket →
    ∃ row, db.tickets[ticket]? = some row ∧ row.tenant = tenant

variable {edit : InboundEmail → InboundEmail} {contact systemUser : ℕ}

section Owners

variable {site : Site} {tenant : Tenant} {db : Db} {s s' : Session} {ticket : ℕ}

theorem Owned.linkedTo (owned : Owned db) {messageId : String}
    (hlinked : linkedTo tenant messageId db = some ticket) :
    ∃ row, db.tickets[ticket]? = some row ∧ row.tenant = tenant := by
  obtain ⟨email, hfind, hticket⟩ := Option.bind_eq_some_iff.mp hlinked
  have hmatches := List.find?_some hfind
  rw [Bool.and_eq_true, Bool.and_eq_true, beq_iff_eq] at hmatches
  have hmem := List.mem_reverse.mp (List.mem_of_find?_eq_some hfind)
  obtain ⟨row, hrow, htenant⟩ := owned.tickets email hmem ticket hticket
  exact ⟨row, hrow, Option.some.inj (htenant.symm.trans hmatches.1.1)⟩

theorem Owned.isolated (owned : Owned db) : Isolated db := by
  intro tenant inbound ticket hfound
  rw [findExistingTicket, Option.or_eq_some_iff, Option.or_eq_some_iff] at hfound
  rcases hfound with (hreply | ⟨-, hreference⟩) | ⟨-, hsubject⟩
  · rw [matchByInReplyTo] at hreply
    split at hreply
    · cases hreply
    · exact owned.linkedTo hreply
  · obtain ⟨refId, -, hlinked⟩ := List.exists_of_findSome?_eq_some hreference
    split at hlinked
    · cases hlinked
    · exact owned.linkedTo hlinked
  · rw [matchBySubject] at hsubject
    split at hsubject
    · cases hsubject
    · cases hsubject
    · obtain ⟨hlt, hmatches, -⟩ := List.findIdx?_eq_some_iff_getElem.mp hsubject
      rw [Bool.and_eq_true, beq_iff_eq] at hmatches
      exact ⟨db.tickets[ticket], List.getElem?_eq_getElem hlt, hmatches.1⟩

/-- The row in hand is the one in the table, and the tables are owned. -/
structure Session.Sound (s : Session) : Prop where
  row : s.db.emails[s.id]? = some s.inbound
  owned : Owned s.db

theorem Session.Sound.save (sound : s.Sound) {edit : InboundEmail → InboundEmail}
    (htenant : ∀ tenant, s.inbound.tenant = some tenant → (edit s.inbound).tenant = some tenant)
    (hticket : ∀ ticket, (edit s.inbound).ticket = some ticket →
      ∃ row, s.db.tickets[ticket]? = some row ∧ (edit s.inbound).tenant = some row.tenant) :
    (s.save edit).Sound where
  row := List.getElem?_set_self (List.getElem?_eq_some_iff.mp sound.row).1
  owned :=
    { tickets := by
        intro email hmem ticket hlinked
        rcases List.mem_or_eq_of_mem_set hmem with hmem | rfl
        · exact sound.owned.tickets email hmem ticket hlinked
        · exact hticket ticket hlinked
      hubEmails := by
        intro hubEmail hmem
        obtain ⟨email, hrow, howner⟩ := sound.owned.hubEmails hubEmail hmem
        by_cases hsame : hubEmail.inbound = s.id
        · rw [hsame, sound.row] at hrow
          obtain rfl := Option.some.inj hrow
          refine ⟨edit s.inbound, ?_, htenant _ howner⟩
          rw [hsame]
          exact List.getElem?_set_self (List.getElem?_eq_some_iff.mp sound.row).1
        · exact ⟨email, (List.getElem?_set_ne (Ne.symm hsame)).trans hrow, howner⟩ }

theorem Session.Sound.keep (sound : s.Sound) (htenant : (edit s.inbound).tenant = s.inbound.tenant)
    (hticket : (edit s.inbound).ticket = s.inbound.ticket) : (s.save edit).Sound := by
  refine sound.save (fun tenant howner => htenant.trans howner) fun ticket hlinked => ?_
  rw [htenant]
  exact sound.owned.tickets s.inbound (List.mem_of_getElem? sound.row) ticket (hticket ▸ hlinked)

/-- A run keeps the tenant of its email, and the email linked. -/
structure Advances (s s' : Session) : Prop extends Rewrites s s' where
  tenant : ∀ tenant, s.inbound.tenant = some tenant → s'.inbound.tenant = some tenant
  ticket : s'.inbound.ticket = none → s.inbound.ticket = none
  sound : s.Sound → s'.Sound

theorem Advances.trans {s'' : Session} (first : Advances s s') (second : Advances s' s'') :
    Advances s s'' where
  toRewrites := first.toRewrites.trans second.toRewrites
  tenant owner howner := second.tenant owner (first.tenant owner howner)
  ticket hnone := first.ticket (second.ticket hnone)
  sound sound := second.sound (first.sound sound)

theorem save_advances (hid : (edit s.inbound).messageId = s.inbound.messageId)
    (htenant : (edit s.inbound).tenant = s.inbound.tenant)
    (hticket : (edit s.inbound).ticket = s.inbound.ticket) : Advances s (s.save edit) where
  toRewrites := save_rewrites hid
  tenant _ howner := htenant.trans howner
  ticket hnone := hticket.symm.trans hnone
  sound sound := sound.keep htenant hticket

theorem reject_advances (reason : String) : Advances s (reject reason s) :=
  save_advances rfl rfl rfl

theorem handleBounce_advances (reason : String) : Advances s (handleBounce site reason s) where
  toRewrites := handleBounce_rewrites reason
  tenant owner howner := by
    change s.inbound.tenant.or _ = _
    rw [howner, Option.some_or]
  ticket hnone := (Option.or_eq_none_iff.mp hnone).2
  sound sound := by
    unfold handleBounce
    dsimp only
    refine sound.save (fun owner howner => ?_) fun ticket hlinked => ?_
    · change s.inbound.tenant.or _ = _
      rw [howner, Option.some_or]
    · rcases Option.or_eq_some_iff.mp hlinked with hfound | ⟨-, hlinked⟩
      · obtain ⟨owner, howner, hmatch⟩ := Option.bind_eq_some_iff.mp hfound
        obtain ⟨row, hrow, rfl⟩ := sound.owned.isolated owner s.inbound ticket hmatch
        exact ⟨row, hrow, howner⟩
      · obtain ⟨row, hrow, howner⟩ :=
          sound.owned.tickets s.inbound (List.mem_of_getElem? sound.row) ticket hlinked
        refine ⟨row, hrow, ?_⟩
        change s.inbound.tenant.or _ = _
        rw [howner, Option.some_or]

theorem Owned.mono {db' : Db} (owned : Owned db) (hemails : db'.emails = db.emails)
    (hhubEmails : db'.hubEmails = db.hubEmails)
    (htickets : ∀ (ticket : ℕ) (row : Ticket), db.tickets[ticket]? = some row →
      db'.tickets[ticket]? = some row) : Owned db' where
  tickets email hmem ticket hlinked := by
    rw [hemails] at hmem
    obtain ⟨row, hrow, howner⟩ := owned.tickets email hmem ticket hlinked
    exact ⟨row, htickets ticket row hrow, howner⟩
  hubEmails hubEmail hmem := by
    rw [hemails]
    rw [hhubEmails] at hmem
    exact owned.hubEmails hubEmail hmem

theorem createTicketFromEmail_advances (howner : s.inbound.tenant = some tenant)
    (success : createTicketFromEmail site tenant contact systemUser s = .ok s') :
    Advances s s' where
  toRewrites := (createTicketFromEmail_handles success).toRewrites
  tenant owner howner' := (createTicketFromEmail_handles success).tenant.trans howner'
  ticket hnone := by
    unfold createTicketFromEmail at success
    split at success
    · cases success
    · rw [← Except.ok.inj success] at hnone
      cases hnone
  sound sound := by
    unfold createTicketFromEmail at success
    split at success
    · cases success
    · rw [← Except.ok.inj success]
      refine Session.Sound.save ?_ ?_ ?_
      · refine ⟨sound.row, sound.owned.mono rfl rfl fun ticket row hrow => ?_⟩
        exact getElem?_concat_eq_some.mpr (Or.inl hrow)
      · exact fun _ howner => howner
      · intro ticket hlinked
        obtain rfl := Option.some.inj hlinked
        exact ⟨_, List.getElem?_concat_length, howner⟩

theorem addReplyToTicket_advances
    (howned : ∃ row, s.db.tickets[ticket]? = some row ∧ s.inbound.tenant = some row.tenant) :
    Advances s (addReplyToTicket site ticket systemUser s) where
  toRewrites := addReplyToTicket_handles.toRewrites
  tenant owner howner := addReplyToTicket_handles.tenant.trans howner
  ticket hnone := by
    unfold addReplyToTicket at hnone
    dsimp only at hnone
    split at hnone
    · exact hnone
    · cases hnone
  sound sound := by
    unfold addReplyToTicket
    dsimp only
    split
    · exact (reject_advances _).sound sound
    · refine Session.Sound.save ?_ ?_ ?_
      · exact ⟨sound.row, sound.owned.mono rfl rfl fun _ _ hrow => hrow⟩
      · exact fun _ howner => howner
      · intro linked hlinked
        obtain rfl := Option.some.inj hlinked
        exact howned

theorem parkEmailInHub_advances (howner : s.inbound.tenant = some tenant) :
    Advances s (parkEmailInHub tenant contact s) where
  toRewrites := parkEmailInHub_handles.toRewrites
  tenant owner howner' := parkEmailInHub_handles.tenant.trans howner'
  ticket hnone := by
    unfold parkEmailInHub at hnone
    dsimp only at hnone
    split at hnone
    · exact hnone
    · exact hnone
  sound sound := by
    unfold parkEmailInHub
    dsimp only
    split
    · exact sound.keep rfl rfl
    · refine Session.Sound.keep ?_ rfl rfl
      refine ⟨sound.row, sound.owned.tickets, fun hubEmail hmem => ?_⟩
      rcases List.mem_append.mp hmem with hmem | hmem
      · exact sound.owned.hubEmails hubEmail hmem
      · obtain rfl := List.mem_singleton.mp hmem
        exact ⟨s.inbound, sound.row, howner⟩

theorem handleClaimed_advances (howner : s.inbound.tenant = some tenant) (sound : s.Sound)
    (success : handleClaimed site tenant s = .ok s') : Advances s s' := by
  unfold handleClaimed at success
  split at success
  · cases success
  rename_i systemUser _
  obtain ⟨hemails, htickets, hcomments, hhubEmails⟩ :=
    findOrCreateContact_rows tenant s.inbound.senderEmail s.inbound.senderName s.db
  generalize findOrCreateContact tenant s.inbound.senderEmail s.inbound.senderName s.db = found
    at success hemails htickets hcomments hhubEmails
  obtain ⟨db, contact⟩ := found
  dsimp only at success hemails htickets hcomments hhubEmails
  have contacted : Advances s { s with db } :=
    { id := rfl
      emails := by
        obtain ⟨hlt, hget⟩ := List.getElem?_eq_some_iff.mp sound.row
        rw [hemails, ← hget, List.set_getElem_self]
      messageId := rfl
      tickets := by rw [htickets]
      comments := by rw [hcomments]
      hubEmails := by rw [hhubEmails]
      tenant := fun _ howner => howner
      ticket := fun hnone => hnone
      sound := fun sound =>
        ⟨hemails ▸ sound.row, sound.owned.mono hemails hhubEmails fun _ _ hrow => htickets ▸ hrow⟩ }
  refine contacted.trans ?_
  split at success
  · rename_i ticket hmatch
    rw [← Except.ok.inj success]
    obtain ⟨row, hrow, rfl⟩ := (contacted.sound sound).owned.isolated tenant s.inbound ticket hmatch
    exact addReplyToTicket_advances ⟨row, hrow, howner⟩
  · split at success
    · rw [← Except.ok.inj success]
      exact parkEmailInHub_advances howner
    · exact createTicketFromEmail_advances howner success

/-- A run of the pipeline. -/
theorem processUnguarded_advances {duplicate : Bool} (sound : s.Sound)
    (success : processUnguarded site duplicate s = .ok s') : Advances s s' := by
  unfold processUnguarded at success
  split at success
  · rw [← Except.ok.inj success]
    split
    · exact handleBounce_advances _
    · exact reject_advances _
  split at success
  · rw [← Except.ok.inj success]
    exact reject_advances _
  rename_i tenant hresolved
  dsimp only at success
  have named : Advances s (s.save fun inbound => { inbound with tenant := some tenant }) :=
    { toRewrites := save_rewrites rfl
      tenant := fun owner howner => by
        rw [tenantOf, howner, Option.some_or] at hresolved
        exact hresolved.symm
      ticket := fun hnone => hnone
      sound := fun sound => by
        refine sound.save (fun owner howner => ?_) fun ticket hlinked => ?_
        · rw [tenantOf, howner, Option.some_or] at hresolved
          exact hresolved.symm
        · obtain ⟨row, hrow, howner⟩ :=
            sound.owned.tickets s.inbound (List.mem_of_getElem? sound.row) ticket hlinked
          rw [tenantOf, howner, Option.some_or] at hresolved
          exact ⟨row, hrow, hresolved.symm⟩ }
  split at success
  · rw [← Except.ok.inj success]
    exact named.trans (reject_advances _)
  split at success
  · cases success
  have claimed : Advances s ((s.save fun inbound => { inbound with tenant := some tenant }).save
      fun inbound =>
        { inbound with idempotencyKey := some (idemKey tenant s.inbound.messageId) }) :=
    named.trans (save_advances rfl rfl rfl)
  exact claimed.trans (handleClaimed_advances rfl (claimed.sound sound) success)

theorem Advances.refl (sound : s.Sound) : Advances s s where
  id := rfl
  emails := by
    obtain ⟨hlt, hget⟩ := List.getElem?_eq_some_iff.mp sound.row
    rw [← hget, List.set_getElem_self]
  messageId := rfl
  tickets := rfl
  comments := rfl
  hubEmails := rfl
  tenant _ howner := howner
  ticket hnone := hnone
  sound sound := sound

theorem processInboundEmail_advances {id : ℕ} (owned : Owned db)
    (success : processInboundEmail site id db = .ok s') :
    ∃ inbound, db.emails[id]? = some inbound ∧ Advances { db, id, inbound } s' := by
  unfold processInboundEmail at success
  cases hrow : db.emails[id]? with
  | none =>
    rw [hrow] at success
    cases success
  | some inbound =>
    rw [hrow] at success
    dsimp only at success
    have sound : Session.Sound { db, id, inbound } := ⟨hrow, owned⟩
    refine ⟨inbound, rfl, ?_⟩
    split at success
    · rw [← Except.ok.inj success]
      exact Advances.refl sound
    · have begun : Advances { db, id, inbound } (Session.save { db, id, inbound }
          fun inbound => { inbound with status := .processing }) :=
        save_advances rfl rfl rfl
      exact begun.trans (processUnguarded_advances (begun.sound sound) success)

theorem Advances.links (advances : Advances s s') (sound : s.Sound) :
    Links s.db s'.db (linkOf s.id s'.inbound) :=
  Links.set sound.row advances.emails advances.messageId advances.tenant advances.ticket

theorem Owned.append (owned : Owned db) {email : InboundEmail}
    (hticket : ∀ ticket, email.ticket = some ticket →
      ∃ row, db.tickets[ticket]? = some row ∧ email.tenant = some row.tenant) :
    Owned { db with emails := db.emails ++ [email] } where
  tickets other hmem ticket hlinked := by
    rcases List.mem_append.mp hmem with hmem | hmem
    · exact owned.tickets other hmem ticket hlinked
    · obtain rfl := List.mem_singleton.mp hmem
      exact hticket ticket hlinked
  hubEmails hubEmail hmem := by
    obtain ⟨other, hrow, howner⟩ := owned.hubEmails hubEmail hmem
    exact ⟨other, getElem?_concat_eq_some.mpr (Or.inl hrow), howner⟩

end Owners

end Kanzan.Mail

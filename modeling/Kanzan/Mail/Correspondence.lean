import Kanzan.Mail.Deliveries
import Kanzan.Mail.Links

/-!
# Correspondence

Emails are sent for tickets, and emails arrive, are processed, and are linked by agents.  An answer
to an email that was sent is matched to the ticket of that email as long as no other email under the
same message id leads elsewhere.
-/

namespace Kanzan.Mail

open Support

/-! ## Message ids -/

/-- Whether normalisation takes a character off the ends of a message id. -/
def isStripped (c : Char) : Bool := isSpace c || c == '<' || c == '>'

/-- A message id whose ends are not stripped. -/
structure Clean (messageId : String) : Prop where
  first : ∃ c, messageId.toList.head? = some c ∧ isStripped c = false
  last : ∃ c, messageId.toList.getLast? = some c ∧ isStripped c = false

section Trim

variable {condition : Char → Bool} {chars : List Char}

theorem dropWhile_eq_self (hfirst : ∀ c ∈ chars.head?, condition c = false) :
    chars.dropWhile condition = chars := by
  cases chars with
  | nil => rfl
  | cons c rest => exact List.dropWhile_cons_of_neg (by simp [hfirst c rfl])

theorem trim_eq_self (hfirst : ∀ c ∈ chars.head?, condition c = false)
    (hlast : ∀ c ∈ chars.getLast?, condition c = false) : trim condition chars = chars := by
  rw [trim, dropWhile_eq_self hfirst, dropWhile_eq_self, List.reverse_reverse]
  intro c hc
  rw [List.head?_reverse] at hc
  exact hlast c hc

theorem trim_surrounded {left right : Char} (hleft : condition left = true)
    (hright : condition right = true) (hne : chars ≠ [])
    (hfirst : ∀ c ∈ chars.head?, condition c = false)
    (hlast : ∀ c ∈ chars.getLast?, condition c = false) :
    trim condition (left :: (chars ++ [right])) = chars := by
  have hfront : (left :: (chars ++ [right])).dropWhile condition = chars ++ [right] := by
    rw [List.dropWhile_cons_of_pos hleft, dropWhile_eq_self]
    rwa [List.head?_append_of_ne_nil _ hne]
  have hback : (chars ++ [right]).reverse.dropWhile condition = chars.reverse := by
    rw [List.reverse_append, List.reverse_singleton, List.singleton_append,
      List.dropWhile_cons_of_pos hright, dropWhile_eq_self]
    intro c hc
    rw [List.head?_reverse] at hc
    exact hlast c hc
  rw [trim, hfront, hback, List.reverse_reverse]

end Trim

section Clean

variable {messageId : String}

theorem Clean.ne_empty (clean : Clean messageId) : messageId ≠ "" := by
  rintro rfl
  obtain ⟨c, hfirst, -⟩ := clean.first
  cases hfirst

theorem Clean.ends (clean : Clean messageId) {condition : Char → Bool}
    (hstrips : ∀ c, isStripped c = false → condition c = false) :
    (∀ c ∈ messageId.toList.head?, condition c = false) ∧
      ∀ c ∈ messageId.toList.getLast?, condition c = false := by
  obtain ⟨first, hfirst, hkept⟩ := clean.first
  obtain ⟨last, hlast, hkept'⟩ := clean.last
  constructor
  · intro c hc
    obtain rfl := Option.some.inj (hfirst.symm.trans hc)
    exact hstrips _ hkept
  · intro c hc
    obtain rfl := Option.some.inj (hlast.symm.trans hc)
    exact hstrips _ hkept'

theorem isSpace_of_not_isStripped (c : Char) (hkept : isStripped c = false) : isSpace c = false := by
  simp only [isStripped, Bool.or_eq_false_iff] at hkept
  exact hkept.1.1

theorem isBracket_of_not_isStripped (c : Char) (hkept : isStripped c = false) :
    (c == '<' || c == '>') = false := by
  simp only [isStripped, Bool.or_eq_false_iff] at hkept
  rw [hkept.1.2, hkept.2, Bool.or_false]

theorem Clean.strip (clean : Clean messageId) : strip messageId = messageId := by
  obtain ⟨hfirst, hlast⟩ := clean.ends isSpace_of_not_isStripped
  rw [Mail.strip, trim_eq_self hfirst hlast, String.ofList_toList]

theorem Clean.normalize (clean : Clean messageId) : normalizeMessageId messageId = messageId := by
  obtain ⟨hfirst, hlast⟩ := clean.ends isBracket_of_not_isStripped
  have hbrackets : stripBrackets messageId = messageId := by
    rw [stripBrackets, trim_eq_self hfirst hlast, String.ofList_toList]
  rw [normalizeMessageId, if_neg clean.ne_empty, clean.strip, hbrackets, clean.strip]

theorem Clean.normalize_bracketed (clean : Clean messageId) :
    normalizeMessageId (bracketed messageId) = messageId := by
  have hchars : (bracketed messageId).toList = '<' :: (messageId.toList ++ ['>']) := by
    rw [bracketed, String.toList_append, String.toList_append]
    rfl
  have hne : bracketed messageId ≠ "" := by
    intro hempty
    rw [hempty] at hchars
    cases hchars
  have hstrip : Mail.strip (bracketed messageId) = bracketed messageId := by
    rw [Mail.strip, trim_eq_self, String.ofList_toList]
    · rw [hchars]
      intro c hc
      obtain rfl := Option.some.inj hc
      rfl
    · rw [hchars, ← List.cons_append, List.getLast?_concat]
      intro c hc
      obtain rfl := Option.some.inj hc
      rfl
  have hbrackets : stripBrackets (bracketed messageId) = messageId := by
    obtain ⟨hfirst, hlast⟩ := clean.ends isBracket_of_not_isStripped
    have hsome : messageId.toList ≠ [] := fun hnil =>
      clean.ne_empty (String.toList_eq_nil_iff.mp hnil)
    rw [stripBrackets, hchars, trim_surrounded rfl rfl hsome hfirst hlast, String.ofList_toList]
  rw [normalizeMessageId, if_neg hne, hstrip, hbrackets, clean.strip]

end Clean

/-! ## Sending -/

/-- What sends the emails: the name of the host is a name. -/
structure Sender where
  baseDomain : String
  defaultFromEmail : String
  isUndeliverableEmail : String → Bool
  hostName : ∀ c ∈ baseDomain.toList, isStripped c = false

theorem clean_generateMessageId (sender : Sender) (ticket : Ticket) (unique : String) :
    Clean (generateMessageId sender.baseDomain ticket unique) := by
  obtain ⟨middle, hchars⟩ : ∃ middle, (generateMessageId sender.baseDomain ticket unique).toList =
      't' :: middle ++ '.' :: sender.baseDomain.toList := by
    refine ⟨"icket-".toList ++ (toString ticket.number).toList ++ "-".toList ++ unique.toList ++
      "@".toList ++ ticket.tenant.slug.toList, ?_⟩
    simp [generateMessageId, String.toList_append, toString]
  constructor
  · refine ⟨'t', ?_, rfl⟩
    rw [hchars]
    rfl
  · cases hdomain : sender.baseDomain.toList.getLast? with
    | none =>
      refine ⟨'.', ?_, rfl⟩
      rw [hchars, List.getLast?_eq_none_iff.mp hdomain, List.getLast?_concat]
    | some c =>
      refine ⟨c, ?_, sender.hostName c (List.mem_of_getLast? hdomain)⟩
      rw [hchars, List.getLast?_append, List.getLast?_cons, hdomain]
      rfl

/-- An email that has been sent for a ticket. -/
structure SentMail where
  tenant : Tenant
  ticket : ℕ
  headers : ThreadHeaders
deriving DecidableEq

def SentMail.messageId (sent : SentMail) : String := normalizeMessageId sent.headers.messageId

/-- The `References` of an answer: those of the email, and the email. -/
def SentMail.answerReferences (sent : SentMail) : String :=
  match sent.headers.references with
  | none => sent.headers.messageId
  | some references => references ++ " " ++ sent.headers.messageId

/-- The headers of an email, as they are stored, are those of an answer. -/
structure SentMail.AnsweredBy (sent : SentMail) (inbound : InboundEmail) : Prop where
  inReplyTo : inbound.inReplyTo = normalizeMessageId sent.headers.messageId
  references : inbound.references = normalizeReferences sent.answerReferences

/-- The tables, and the emails that have been sent. -/
structure Correspondence where
  db : Db := {}
  sent : List SentMail := []

/-- The row that `record_outbound_email` creates. -/
def outboundRecord (sender : Sender) (tenant : Tenant) (ticket : ℕ)
    (messageId recipientEmail subject bodyText : String) (senderType : SenderType) : InboundEmail :=
  { tenant := some tenant, messageId := normalizeMessageId messageId
    senderEmail := sender.defaultFromEmail, recipientEmail, subject, bodyText
    direction := .outbound, senderType, status := .sent, ticket := some ticket
    idempotencyKey := some s!"out:{tenant.pk}:{ticket}:{messageId}" }

def isRecorded (tenant : Tenant) (ticket : ℕ) (messageId : String) (db : Db) : Bool :=
  db.emails.any fun email => email.idempotencyKey == some s!"out:{tenant.pk}:{ticket}:{messageId}"

/-- `send_ticket_email`; what is on record already has been listed when it was recorded. -/
def sendTicketEmail (sender : Sender) (ticket : ℕ) (unique toEmail subject bodyText : String)
    (senderType : SenderType) (c : Correspondence) : Correspondence :=
  match c.db.tickets[ticket]? with
  | none => c
  | some row =>
    if sender.isUndeliverableEmail toEmail then c
    else
      let rawMessageId := generateMessageId sender.baseDomain row unique
      let headers := buildThreadHeaders row.tenant ticket rawMessageId c.db
      { db := recordOutboundEmail row.tenant ticket rawMessageId toEmail subject bodyText
          sender.defaultFromEmail senderType c.db
        sent :=
          if isRecorded row.tenant ticket rawMessageId c.db then c.sent
          else c.sent ++ [{ tenant := row.tenant, ticket, headers }] }

/-- The row that `log_outbound_email` creates. -/
def outboundLog (sender : Sender) (tenant : Tenant) (ticket : Option ℕ)
    (messageId recipientEmail subject bodyText : String) (senderType : SenderType) : InboundEmail :=
  { tenant := some tenant, messageId := normalizeMessageId messageId
    senderEmail := sender.defaultFromEmail, recipientEmail
    subject := (subject.replace "\r" "").replace "\n" " ", bodyText
    direction := .outbound, senderType, status := .sent, ticket }

/-! ## Links by agents -/

/-- The `link_email` endpoint of a tenant. -/
def linkEmail (site : Site) (tenant : Tenant) (user ticket id : ℕ) (db : Db) : Db :=
  match db.tickets[ticket]?, db.emails[id]? with
  | some row, some inbound =>
    if row.tenant = tenant ∧ inbound.tenant = some tenant then
      let body := site.stripQuotedReply inbound.bodyText
      { db with
        emails := db.emails.set id { inbound with ticket := some ticket }
        comments :=
          if strip body = "" then db.comments else db.comments ++ [{ ticket, author := user, body }] }
    else db
  | _, _ => db

/-- `convert_to_ticket` without overrides, once the hub lets it through. -/
def convertToTicket (site : Site) (hubEmail actor : ℕ) (db : Db) : Except String Session :=
  match db.hubEmails[hubEmail]? with
  | none => .error "HubEmail matching query does not exist."
  | some row =>
    match db.emails[row.inbound]? with
    | none => .error "InboundEmail matching query does not exist."
    | some inbound =>
      createTicketFromEmail site row.tenant row.contact actor { db, id := row.inbound, inbound }

/-! ## The history -/

inductive Event where
  | send (ticket : ℕ) (unique toEmail subject bodyText : String) (senderType : SenderType)
  /-- An email that is sent outside of a thread is logged, for a ticket of the tenant if for one. -/
  | log (tenant : Tenant) (ticket : Option ℕ) (messageId recipientEmail subject bodyText : String)
      (senderType : SenderType)
  | receive (inbound : InboundEmail)
  | process (site : Site) (id : ℕ)
  | convert (site : Site) (hubEmail actor : ℕ)
  | link (site : Site) (tenant : Tenant) (user ticket id : ℕ)

def isTicketOf (tenant : Tenant) (ticket : Option ℕ) (db : Db) : Bool :=
  ticket.all fun ticket => (db.tickets[ticket]?).any fun row => row.tenant == tenant

def correspond (sender : Sender) (c : Correspondence) : Event → Correspondence
  | .send ticket unique toEmail subject bodyText senderType =>
    sendTicketEmail sender ticket unique toEmail subject bodyText senderType c
  | .log tenant ticket messageId recipientEmail subject bodyText senderType =>
    if isTicketOf tenant ticket c.db then
      { c with
        db := { c.db with
          emails := c.db.emails ++
            [outboundLog sender tenant ticket messageId recipientEmail subject bodyText senderType] } }
    else c
  | .receive inbound =>
    { c with db := { c.db with emails := c.db.emails ++ [inbound.unprocessed] } }
  | .process site id =>
    match processInboundEmail site id c.db with
    | .ok s => { c with db := s.db }
    | .error _ => c
  | .convert site hubEmail actor =>
    match convertToTicket site hubEmail actor c.db with
    | .ok s => { c with db := s.db }
    | .error _ => c
  | .link site tenant user ticket id => { c with db := linkEmail site tenant user ticket id c.db }

def linked (sender : Sender) (c : Correspondence) : Event → Option Link
  | .send ticket unique toEmail _ _ _ =>
    match c.db.tickets[ticket]? with
    | none => none
    | some row =>
      let rawMessageId := generateMessageId sender.baseDomain row unique
      if sender.isUndeliverableEmail toEmail || isRecorded row.tenant ticket rawMessageId c.db then
        none
      else
        some
          { position := c.db.emails.length, tenant := row.tenant
            messageId := normalizeMessageId rawMessageId, ticket }
  | .log tenant ticket messageId _ _ _ _ =>
    if isTicketOf tenant ticket c.db then
      ticket.map fun ticket =>
        { position := c.db.emails.length, tenant, messageId := normalizeMessageId messageId, ticket }
    else none
  | .receive _ => none
  | .process site id =>
    match processInboundEmail site id c.db with
    | .ok s => linkOf id s.inbound
    | .error _ => none
  | .convert site hubEmail actor =>
    match convertToTicket site hubEmail actor c.db with
    | .ok s => linkOf s.id s.inbound
    | .error _ => none
  | .link _ tenant _ ticket id =>
    match c.db.tickets[ticket]?, c.db.emails[id]? with
    | some row, some inbound =>
      if row.tenant = tenant ∧ inbound.tenant = some tenant then
        linkOf id { inbound with ticket := some ticket }
      else none
    | _, _ => none

/-- An email that gets linked under the message id of an email that was sent is linked to the ticket
of that email, unless a newer one is linked under the id. -/
def Undisturbed (sender : Sender) (c : Correspondence) (event : Event) : Prop :=
  ∀ link ∈ linked sender c event, link.IsNewest c.db →
    ∀ sent ∈ c.sent, sent.tenant = link.tenant → sent.messageId = link.messageId →
      sent.ticket = link.ticket

/-- Every answer is matched to the ticket of the email that it answers. -/
def Threaded (c : Correspondence) : Prop :=
  ∀ sent ∈ c.sent, ∀ inbound, sent.AnsweredBy inbound →
    findExistingTicket sent.tenant inbound c.db = some sent.ticket

variable {db : Db} {ticket : ℕ}

/-! ## Steps -/

section Steps

variable {sender : Sender} {c : Correspondence} {sent : SentMail}

theorem recordOutboundEmail_eq (tenant : Tenant) (ticket : ℕ)
    (messageId recipientEmail subject bodyText : String) (senderType : SenderType) (db : Db) :
    recordOutboundEmail tenant ticket messageId recipientEmail subject bodyText
        sender.defaultFromEmail senderType db =
      if isRecorded tenant ticket messageId db then db
      else
        { db with
          emails := db.emails ++
            [outboundRecord sender tenant ticket messageId recipientEmail subject bodyText senderType] } :=
  rfl

theorem headers_messageId (tenant : Tenant) (ticket : ℕ) (newMessageId : String) (db : Db) :
    (buildThreadHeaders tenant ticket newMessageId db).messageId = bracketed newMessageId := by
  unfold buildThreadHeaders
  dsimp only
  split
  · rfl
  · rfl

theorem exists_of_isTicketOf {tenant : Tenant} (hof : isTicketOf tenant (some ticket) db = true) :
    ∃ row, db.tickets[ticket]? = some row ∧ some tenant = some row.tenant := by
  rw [isTicketOf, Option.all_some, Option.any_eq_true] at hof
  obtain ⟨row, hrow, htenant⟩ := hof
  exact ⟨row, hrow, congrArg some (beq_iff_eq.mp htenant).symm⟩

theorem convertToTicket_advances {site : Site} {hubEmail actor : ℕ} {s' : Session}
    (owned : Owned db) (success : convertToTicket site hubEmail actor db = .ok s') :
    ∃ s : Session, s.db = db ∧ s.Sound ∧ Advances s s' := by
  unfold convertToTicket at success
  split at success
  · cases success
  rename_i row hrow
  split at success
  · cases success
  rename_i inbound hinbound
  obtain ⟨email, hemail, howner⟩ := owned.hubEmails row (List.mem_of_getElem? hrow)
  obtain rfl := Option.some.inj (hinbound.symm.trans hemail)
  exact ⟨_, rfl, ⟨hinbound, owned⟩, createTicketFromEmail_advances howner success⟩

theorem linkEmail_owned (site : Site) (tenant : Tenant) (user ticket id : ℕ) (owned : Owned db) :
    Owned (linkEmail site tenant user ticket id db) := by
  unfold linkEmail
  split
  · rename_i row inbound hrow hinbound
    split
    · rename_i hof
      have sound : Session.Sound { db, id, inbound } := ⟨hinbound, owned⟩
      have saved : Session.Sound (Session.save { db, id, inbound }
          fun inbound => { inbound with ticket := some ticket }) := by
        refine sound.save (fun _ howner => howner) fun linked hlinked => ?_
        obtain rfl := Option.some.inj hlinked
        exact ⟨row, hrow, hof.2.trans (congrArg some hof.1.symm)⟩
      exact saved.owned.mono rfl rfl fun _ _ hrow => hrow
    · exact owned
  · exact owned

theorem owned_correspond (owned : Owned c.db) (event : Event) :
    Owned (correspond sender c event).db := by
  cases event with
  | send ticket unique toEmail subject bodyText senderType =>
    rw [correspond, sendTicketEmail]
    split
    · exact owned
    · rename_i row hrow
      split
      · exact owned
      · dsimp only
        rw [recordOutboundEmail_eq]
        split
        · exact owned
        · refine owned.append fun linked hlinked => ?_
          obtain rfl := Option.some.inj hlinked
          exact ⟨row, hrow, rfl⟩
  | log tenant ticket messageId recipientEmail subject bodyText senderType =>
    rw [correspond]
    split
    · rename_i hof
      refine owned.append fun linked hlinked => ?_
      obtain rfl : ticket = some linked := hlinked
      exact exists_of_isTicketOf hof
    · exact owned
  | receive inbound =>
    refine owned.append fun _ hlinked => ?_
    cases hlinked
  | process site id =>
    rw [correspond]
    split
    · rename_i s success
      obtain ⟨inbound, hrow, advances⟩ := processInboundEmail_advances owned success
      exact (advances.sound ⟨hrow, owned⟩).owned
    · exact owned
  | convert site hubEmail actor =>
    rw [correspond]
    split
    · rename_i s success
      obtain ⟨before, -, sound, advances⟩ := convertToTicket_advances owned success
      exact (advances.sound sound).owned
    · exact owned
  | link site tenant user ticket id => exact linkEmail_owned site tenant user ticket id owned

/-- What a step does for the look-ups. -/
theorem links_correspond (owned : Owned c.db) (event : Event) :
    Links c.db (correspond sender c event).db (linked sender c event) := by
  cases event with
  | send ticket unique toEmail subject bodyText senderType =>
    rw [correspond, sendTicketEmail, linked]
    cases hrow : c.db.tickets[ticket]? with
    | none => exact Links.refl rfl
    | some row =>
      dsimp only
      cases hskip : sender.isUndeliverableEmail toEmail with
      | true => exact Links.refl rfl
      | false =>
        simp only [recordOutboundEmail_eq, Bool.false_eq_true, if_false, Bool.false_or]
        cases hrecorded :
            isRecorded row.tenant ticket (generateMessageId sender.baseDomain row unique) c.db with
        | true => exact Links.refl rfl
        | false =>
          exact Links.append (outboundRecord sender row.tenant ticket
            (generateMessageId sender.baseDomain row unique) toEmail subject bodyText
            senderType) rfl
  | log tenant ticket messageId recipientEmail subject bodyText senderType =>
    rw [correspond, linked]
    split
    · have appended : Links c.db { c.db with emails := c.db.emails ++ [_] } _ :=
        Links.append (outboundLog sender tenant ticket messageId recipientEmail subject bodyText
          senderType) rfl
      cases ticket with
      | none => exact appended
      | some ticket => exact appended
    · exact Links.refl rfl
  | receive inbound =>
    have hnone : linkOf c.db.emails.length inbound.unprocessed = none := by
      rw [linkOf]
      split
      · rename_i hlinked
        cases hlinked
      · rfl
    have appended : Links c.db { c.db with emails := c.db.emails ++ [inbound.unprocessed] } _ :=
      Links.append _ rfl
    rw [hnone] at appended
    exact appended
  | process site id =>
    rw [correspond, linked]
    split
    · rename_i s success
      obtain ⟨inbound, hrow, advances⟩ := processInboundEmail_advances owned success
      exact advances.links ⟨hrow, owned⟩
    · exact Links.refl rfl
  | convert site hubEmail actor =>
    rw [correspond, linked]
    split
    · rename_i s success
      obtain ⟨before, hdb, sound, advances⟩ := convertToTicket_advances owned success
      rw [advances.id, ← hdb]
      exact advances.links sound
    · exact Links.refl rfl
  | link site tenant user ticket id =>
    rw [correspond, linkEmail, linked]
    split
    · rename_i row inbound hrow hinbound
      split
      · refine Links.set hinbound rfl rfl (fun _ howner => howner) fun hnone => ?_
        cases hnone
      · exact Links.refl rfl
    · exact Links.refl rfl

/-- A step lists at most one email, under the link that it makes. -/
theorem sent_correspond (event : Event) (hmem : sent ∈ (correspond sender c event).sent) :
    sent ∈ c.sent ∨ ∃ link ∈ linked sender c event, link.Answers sent.tenant sent.messageId c.db ∧
      sent.ticket = link.ticket ∧ sent.messageId ≠ "" := by
  cases event with
  | send ticket unique toEmail subject bodyText senderType =>
    rw [correspond, sendTicketEmail] at hmem
    rw [linked]
    cases hrow : c.db.tickets[ticket]? with
    | none =>
      rw [hrow] at hmem
      exact Or.inl hmem
    | some row =>
      rw [hrow] at hmem
      dsimp only at hmem ⊢
      cases hskip : sender.isUndeliverableEmail toEmail with
      | true =>
        rw [hskip] at hmem
        exact Or.inl hmem
      | false =>
        simp only [hskip, Bool.false_eq_true, if_false] at hmem
        cases hrecorded :
            isRecorded row.tenant ticket (generateMessageId sender.baseDomain row unique) c.db with
        | true =>
          simp only [hrecorded, if_true] at hmem
          exact Or.inl hmem
        | false =>
          simp only [hrecorded, Bool.false_eq_true, if_false] at hmem
          rcases List.mem_append.mp hmem with hmem | hmem
          · exact Or.inl hmem
          · obtain rfl := List.mem_singleton.mp hmem
            have clean := clean_generateMessageId sender row unique
            have hid := headers_messageId row.tenant ticket
              (generateMessageId sender.baseDomain row unique) c.db
            refine Or.inr ⟨_, rfl, ⟨rfl, ?_, ?_⟩, rfl, ?_⟩
            · rw [SentMail.messageId, hid, clean.normalize, clean.normalize_bracketed]
            · rw [Link.IsNewest, linkedTo_eq_newest, List.drop_of_length_le (Nat.le_succ _)]
              rfl
            · rw [SentMail.messageId, hid, clean.normalize_bracketed]
              exact clean.ne_empty
  | log tenant ticket messageId recipientEmail subject bodyText senderType =>
    rw [correspond] at hmem
    split at hmem
    · exact Or.inl hmem
    · exact Or.inl hmem
  | receive inbound => exact Or.inl hmem
  | process site id =>
    rw [correspond] at hmem
    split at hmem
    · exact Or.inl hmem
    · exact Or.inl hmem
  | convert site hubEmail actor =>
    rw [correspond] at hmem
    split at hmem
    · exact Or.inl hmem
    · exact Or.inl hmem
  | link site tenant user ticket id => exact Or.inl hmem

theorem mem_correspond (event : Event) (hmem : sent ∈ c.sent) :
    sent ∈ (correspond sender c event).sent := by
  cases event with
  | send ticket unique toEmail subject bodyText senderType =>
    rw [correspond, sendTicketEmail]
    split
    · exact hmem
    · split
      · exact hmem
      · dsimp only
        split
        · exact hmem
        · exact List.mem_append_left _ hmem
  | log | process | convert =>
    rw [correspond]
    split
    · exact hmem
    · exact hmem
  | receive => exact hmem
  | link => exact hmem

end Steps

/-! ## Runs -/

/-- The tables are owned, and each email on the list is found under its id. -/
structure Orderly (c : Correspondence) : Prop where
  owned : Owned c.db
  found : ∀ sent ∈ c.sent, linkedTo sent.tenant sent.messageId c.db = some sent.ticket
  named : ∀ sent ∈ c.sent, sent.messageId ≠ ""

section Runs

variable {sender : Sender} {c : Correspondence}

theorem findExistingTicket_of_answeredBy {sent : SentMail} {inbound : InboundEmail}
    (answered : sent.AnsweredBy inbound) (hnamed : sent.messageId ≠ "")
    (hlinked : linkedTo sent.tenant sent.messageId db = some ticket) :
    findExistingTicket sent.tenant inbound db = some ticket := by
  have hreply : inbound.inReplyTo = sent.messageId := answered.inReplyTo
  rw [findExistingTicket, matchByInReplyTo, hreply, if_neg hnamed, hlinked, Option.some_or,
    Option.some_or]

def SentMail.answer (sent : SentMail) : InboundEmail :=
  { messageId := "", inReplyTo := normalizeMessageId sent.headers.messageId
    references := normalizeReferences sent.answerReferences }

theorem Orderly.threaded (orderly : Orderly c) : Threaded c := by
  intro sent hmem inbound answered
  exact findExistingTicket_of_answeredBy answered (orderly.named sent hmem) (orderly.found sent hmem)

theorem Orderly.step (orderly : Orderly c) {event : Event} (undisturbed : Undisturbed sender c event) :
    Orderly (correspond sender c event) where
  owned := owned_correspond orderly.owned event
  found sent hmem := by
    have links : Links c.db (correspond sender c event).db (linked sender c event) :=
      links_correspond orderly.owned event
    rcases sent_correspond event hmem with hmem | ⟨link, hlink, answers, hticket, -⟩
    · by_cases hanswers : ∃ link ∈ linked sender c event, link.Answers sent.tenant sent.messageId c.db
      · obtain ⟨link, hlink, answers⟩ := hanswers
        rw [links.found link hlink _ _ answers, undisturbed link hlink answers.2.2 sent hmem
          answers.1.symm answers.2.1.symm]
      · rw [links.other, orderly.found sent hmem]
        exact fun link hlink answers => hanswers ⟨link, hlink, answers⟩
    · rw [links.found link hlink _ _ answers, hticket]
  named sent hmem := by
    rcases sent_correspond event hmem with hmem | ⟨-, -, -, -, hnamed⟩
    · exact orderly.named sent hmem
    · exact hnamed

theorem undisturbed_of_threaded (orderly : Orderly c) {event : Event}
    (threaded : Threaded (correspond sender c event)) : Undisturbed sender c event := by
  intro link hlink isNewest sent hmem htenant hid
  have links : Links c.db (correspond sender c event).db (linked sender c event) :=
    links_correspond orderly.owned event
  have hlinked := links.found link hlink sent.tenant sent.messageId ⟨htenant.symm, hid.symm, isNewest⟩
  have answered : sent.AnsweredBy sent.answer := ⟨rfl, rfl⟩
  have hfound := findExistingTicket_of_answeredBy answered (orderly.named sent hmem) hlinked
  have hmatched := threaded sent (mem_correspond event hmem) sent.answer answered
  exact Option.some.inj (hmatched.symm.trans hfound)

def silent (db : Db) : Correspondence where
  db := { db with emails := [], hubEmails := [] }

theorem orderly_silent (db : Db) : Orderly (silent db) where
  owned :=
    { tickets := fun _ hmem => absurd hmem List.not_mem_nil
      hubEmails := fun _ hmem => absurd hmem List.not_mem_nil }
  found _ hmem := absurd hmem List.not_mem_nil
  named _ hmem := absurd hmem List.not_mem_nil

end Runs

/--
In a history, every answer is matched to the ticket of the email that it answers, and no email to a
ticket of another tenant, exactly if no step links an email under the id of a sent one elsewhere.
-/
theorem always_threaded_iff (sender : Sender) (db : Db) (events : List Event) :
    Always (correspond sender) (fun c => Threaded c ∧ Isolated c.db) (silent db) events ↔
      Every (correspond sender) (Undisturbed sender) (silent db) events :=
  always_iff_every
    (fun (c : Correspondence) (orderly : Orderly c) => ⟨orderly.threaded, orderly.owned.isolated⟩)
    (fun _ _ orderly undisturbed => orderly.step undisturbed)
    (fun _ _ orderly good => undisturbed_of_threaded orderly good.1) (orderly_silent db) events

/-- A site that takes every email. -/
def openSite : Site where
  runAllFilters _ := none
  isBounce _ := false
  resolveTenantFromAddress _ := some { pk := 1, slug := "acme" }
  getSystemUser _ := some 1
  inboxHubEnabled _ := false
  hasStatuses _ := true
  stripQuotedReply := id

def localSender : Sender where
  baseDomain := "localhost"
  defaultFromEmail := "support@localhost"
  isUndeliverableEmail _ := false
  hostName c hmem := by
    have hall : ("localhost".toList.all fun c => !isStripped c) = true := by decide +kernel
    simpa using List.all_eq_true.mp hall c hmem

def openTicket (number : ℕ) : Ticket where
  tenant := { pk := 1, slug := "acme" }
  number
  subject := "printer"
  description := ""
  contact := 0
  createdBy := 1
  messageId := ""

/-- An email about the first ticket is sent, and comes back under its id with the second ticket in the
subject. -/
def returned : List Event :=
  [.send 0 "a" "ann@example.org" "Re: [#1] printer" "Done." .agent,
    .receive
      { messageId := "ticket-1-a@acme.localhost", subject := "Fwd: [#2] printer", bodyText := "See below." },
    .process openSite 1]

/-- The answer to the email is matched to the second ticket. -/
theorem not_always_threaded_returned :
    ¬ Always (correspond localSender) (fun c => Threaded c ∧ Isolated c.db)
      (silent { tickets := [openTicket 1, openTicket 2] }) returned := by
  intro always
  have threaded := always.finish.1
  have hsent : (run (correspond localSender) (silent { tickets := [openTicket 1, openTicket 2] })
      returned).sent = [{ tenant := { pk := 1, slug := "acme" }, ticket := 0
                          headers := { messageId := "<ticket-1-a@acme.localhost>" } }] := by
    decide +kernel
  have hmatched := threaded _ (hsent ▸ List.mem_singleton_self _) (SentMail.answer _) ⟨rfl, rfl⟩
  revert hmatched
  decide +kernel

end Kanzan.Mail

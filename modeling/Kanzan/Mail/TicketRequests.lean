import Mathlib.Data.List.Nodup
import Kanzan.Mail.ServiceLaws
import Kanzan.Support.Processes

/-!
# Requests for a ticket

Agents ask for a ticket to be made from an email.  A request reads the email, and answers with its
ticket if there is one; else it makes one in a transaction that does not read the email again.
Emails that the hub has are converted there.
-/

namespace Kanzan.Mail.TicketRequests

open Support

/-! ## One request -/

/-- What `build_ticket_overrides` has made of the columns that tickets have here. -/
structure Overrides where
  subject : Option String := none
  description : Option String := none
  deriving DecidableEq, Repr

/-- The site, and the levels of the effective roles of the members of each tenant. -/
structure Desk extends Site where
  level : Tenant → ℕ → Option ℕ

inductive Answer where
  | forbidden (detail : String)
  | notFound (detail : String)
  | exists (detail : String) (ticket number : ℕ)
  | invalid (message : String)
  | created (ticket number : ℕ) (subject : String)
  | raised (message : String)
  deriving DecidableEq, Repr

/-- `_create_ticket_from_email` for an email that has been loaded, up to its attachments and mails:
the key of the ticket, and the tables. -/
def createTicketFromEmail (site : Site) (tenant : Tenant) (contact createdBy : ℕ)
    (overrides : Overrides) (id : ℕ) (email : InboundEmail) (db : Db) :
    Except String (ℕ × Db) :=
  if !site.hasStatuses tenant then
    .error s!"No ticket statuses configured for tenant {tenant.slug}"
  else
    let subject := if email.subject = "" then "(No Subject)" else email.subject
    let body := site.stripQuotedReply email.bodyText
    let number := db.lastNumber tenant + 1
    let ticket : Ticket :=
      { tenant, number
        subject := overrides.subject.getD ((subject.replace "\r" "").replace "\n" " ")
        description := overrides.description.getD (if body = "" then email.bodyText else body)
        contact, createdBy, messageId := email.messageId }
    .ok (db.tickets.length,
      { db with
        tickets := db.tickets ++ [ticket]
        lastNumber := fun other => if other = tenant then number else db.lastNumber other
        emails := db.emails.modify id fun row =>
          { row with ticket := some db.tickets.length, status := .ticketCreated } })

def makeTicket (site : Site) (tenant : Tenant) (user : ℕ) (overrides : Overrides) (id : ℕ)
    (email : InboundEmail) (db : Db) : Except String (ℕ × Db) :=
  let (db, contact) := findOrCreateContact tenant email.senderEmail email.senderName db
  createTicketFromEmail site tenant contact user overrides id email db

def numberOf (ticket : ℕ) (db : Db) : ℕ := (db.tickets[ticket]?.map Ticket.number).getD 0

/-! ## Turns -/

/-- The answer to a request for an email. -/
structure Reply where
  email : ℕ
  answer : Answer
  deriving DecidableEq, Repr

/-- The tables, and the replies in their order. -/
structure Office where
  db : Db
  replies : List Reply := []

/-- A request that has found an email without a ticket, with the email as it was read. -/
inductive Call where
  | idle
  | creating (tenant : Tenant) (user id : ℕ) (email : InboundEmail) (overrides : Overrides)

inductive Action where
  /-- A member asks, with what `build_ticket_overrides` makes of the form. -/
  | request (tenant : Tenant) (user id : ℕ) (form : Except String Overrides)
  /-- The request goes on with its transaction. -/
  | proceed
  /-- The transaction raises an exception. -/
  | fail (message : String)

def Office.reply (office : Office) (email : ℕ) (answer : Answer) : Office :=
  { office with replies := office.replies ++ [{ email, answer }] }

section Turns

variable (desk : Desk)

/-- `InboundEmailViewSet.create_ticket` up to its transaction: an answer, or the email. -/
def examine (tenant : Tenant) (user id : ℕ) (form : Except String Overrides) (db : Db) :
    Answer ⊕ InboundEmail × Overrides :=
  match desk.level tenant user with
  | none => .inl (.forbidden "You do not have permission to perform this action.")
  | some level =>
    match db.emails[id]?.filter fun email => email.tenant == some tenant with
    | none => .inl (.notFound "Email not found.")
    | some email =>
      if 30 < level then .inl (.forbidden "You do not have permission to create tickets.")
      else
        match email.ticket with
        | some ticket =>
          .inl (.exists s!"This email already has ticket #{numberOf ticket db}." ticket
            (numberOf ticket db))
        | none =>
          match form with
          | .error message => .inl (.invalid message)
          | .ok overrides => .inr (email, overrides)

def act (office : Office) (call : Call) : Action → Office × Call
  | .request tenant user id form =>
    match examine desk tenant user id form office.db with
    | .inl answer => (office.reply id answer, .idle)
    | .inr (email, overrides) =>
      if office.db.hubEmails.any fun hubEmail => hubEmail.inbound == id then (office, .idle)
      else (office, .creating tenant user id email overrides)
  | .proceed =>
    match call with
    | .idle => (office, .idle)
    | .creating tenant user id email overrides =>
      match makeTicket desk.toSite tenant user overrides id email office.db with
      | .error message => (office.reply id (.raised message), .idle)
      | .ok (ticket, db) =>
        (Office.reply { office with db } id
          (.created ticket (numberOf ticket db)
            ((db.tickets[ticket]?.map Ticket.subject).getD "")), .idle)
  | .fail message =>
    match call with
    | .idle => (office, .idle)
    | .creating _ _ id _ _ => (office.reply id (.raised message), .idle)

abbrev turn : World Office Call → ℕ × Action → World Office Call :=
  World.turn fun _ => act desk

def quiet (db : Db) : World Office Call where
  shared := { db }
  locals _ := .idle

/-! ## The property and its condition -/

def Office.created (office : Office) : List (ℕ × ℕ) :=
  office.replies.filterMap fun reply =>
    match reply.answer with
    | .created ticket _ _ => some (reply.email, ticket)
    | _ => none

def OneTicket (office : Office) : Prop := (office.created.map Prod.fst).Nodup

/-- A request of an agent for an email of his tenant that a ticket has been created from is
answered with that ticket. -/
def AnswersExisting (world : World Office Call) : ℕ × Action → Prop
  | (process, .request tenant user id form) =>
    ∀ ticket email level, (id, ticket) ∈ world.shared.created →
      world.shared.db.emails[id]? = some email → email.tenant = some tenant →
        desk.level tenant user = some level → level ≤ 30 →
          let number := numberOf ticket world.shared.db
          act desk world.shared (world.locals process) (.request tenant user id form) =
            (world.shared.reply id
              (.exists s!"This email already has ticket #{number}." ticket number), .idle)
  | _ => True

def Unspent (world : World Office Call) : ℕ × Action → Prop
  | (process, .proceed) =>
    match world.locals process with
    | .idle => True
    | .creating tenant _ id _ _ =>
      desk.hasStatuses tenant = true →
        ∀ row, world.shared.db.emails[id]? = some row → row.ticket = none
  | _ => True

end Turns

variable {answer : Answer} {call : Call} {number : ℕ} {subject : String}

/-! ## What the turns keep -/

section Laws

variable {desk : Desk} {site : Site} {tenant : Tenant} {user id ticket : ℕ}
  {form : Except String Overrides} {overrides : Overrides} {email : InboundEmail} {db db' : Db}
  {office : Office} {world : World Office Call}

theorem makeTicket_isOk (site : Site) (tenant : Tenant) (user : ℕ) (overrides : Overrides) (id : ℕ)
    (email : InboundEmail) (db : Db) :
    if site.hasStatuses tenant then
      ∃ db', makeTicket site tenant user overrides id email db = .ok (db.tickets.length, db') ∧
        db'.emails = db.emails.modify id fun row =>
          { row with ticket := some db.tickets.length, status := .ticketCreated }
    else ∃ message, makeTicket site tenant user overrides id email db = .error message := by
  obtain ⟨hemails, htickets, -⟩ :=
    findOrCreateContact_rows tenant email.senderEmail email.senderName db
  unfold makeTicket createTicketFromEmail
  generalize findOrCreateContact tenant email.senderEmail email.senderName db = found at *
  obtain ⟨between, contact⟩ := found
  dsimp only at hemails htickets ⊢
  cases site.hasStatuses tenant with
  | true => exact ⟨_, by rw [← htickets]; rfl, by rw [← hemails, ← htickets]⟩
  | false => exact ⟨_, rfl⟩

theorem makeTicket_cases
    (success : makeTicket site tenant user overrides id email db = .ok (ticket, db')) :
    site.hasStatuses tenant = true ∧
      db'.emails = db.emails.modify id fun row =>
        { row with ticket := some ticket, status := .ticketCreated } := by
  have hok := makeTicket_isOk site tenant user overrides id email db
  split at hok
  · rename_i hstatuses
    obtain ⟨after, hafter, hemails⟩ := hok
    rw [success, Except.ok.injEq, Prod.mk.injEq] at hafter
    obtain ⟨rfl, rfl⟩ := hafter
    exact ⟨hstatuses, hemails⟩
  · obtain ⟨message, hmessage⟩ := hok
    rw [success] at hmessage
    cases hmessage

theorem examine_inr (hexamined : examine desk tenant user id form db = .inr (email, overrides)) :
    db.emails[id]? = some email ∧ email.ticket = none := by
  unfold examine at hexamined
  split at hexamined
  · cases hexamined
  split at hexamined
  · cases hexamined
  rename_i found hfound
  split at hexamined
  · cases hexamined
  split at hexamined
  · cases hexamined
  rename_i hticket
  split at hexamined
  · cases hexamined
  · cases hexamined
    exact ⟨(Option.filter_eq_some_iff.mp hfound).1, hticket⟩

theorem created_reply (office : Office) (id : ℕ) (answer : Answer) :
    (office.reply id answer).created = office.created ++
      (match answer with
        | .created ticket _ _ => [(id, ticket)]
        | _ => []) := by
  unfold Office.created Office.reply
  rw [List.filterMap_append]
  cases answer <;> rfl

theorem created_reply_of (office : Office) (id : ℕ)
    (hanswer : ∀ ticket number subject, answer ≠ .created ticket number subject) :
    (office.reply id answer).created = office.created := by
  rw [created_reply]
  cases answer with
  | created ticket number subject => exact absurd rfl (hanswer ticket number subject)
  | _ => exact List.append_nil _

theorem examine_inl (hexamined : examine desk tenant user id form db = .inl answer)
    (ticket number : ℕ) (subject : String) : answer ≠ .created ticket number subject := by
  unfold examine at hexamined
  rintro rfl
  split at hexamined
  · cases hexamined
  split at hexamined
  · cases hexamined
  split at hexamined
  · cases hexamined
  split at hexamined
  · cases hexamined
  · split at hexamined <;> cases hexamined

/-- Each ticket that has been created is that of its email. -/
structure Linked (office : Office) : Prop where
  one : OneTicket office
  stored : ∀ id ticket, (id, ticket) ∈ office.created →
    ∃ email, office.db.emails[id]? = some email ∧ email.ticket = some ticket

def Call.Holds (office : Office) : Call → Prop
  | .idle => True
  | .creating _ _ id _ _ =>
    ∃ row, office.db.emails[id]? = some row ∧
      (row.ticket = none ∨ ∃ ticket, (id, ticket) ∈ office.created)

abbrev Steady : World Office Call → Prop :=
  World.Keeps Linked fun _ office call => call.Holds office

theorem steady_quiet (db : Db) : Steady (quiet db) where
  shared := ⟨List.nodup_nil, fun _ _ hmem => absurd hmem List.not_mem_nil⟩
  locals _ := trivial

theorem Linked.replied (linked : Linked office)
    (hanswer : ∀ ticket number subject, answer ≠ .created ticket number subject) :
    Linked (office.reply id answer) where
  one := by
    unfold OneTicket
    rw [created_reply_of office id hanswer]
    exact linked.one
  stored own ticket hmem := by
    rw [created_reply_of office id hanswer] at hmem
    exact linked.stored own ticket hmem

theorem Call.Holds.replied (holds : call.Holds office) : call.Holds (office.reply id answer) := by
  cases call with
  | idle => trivial
  | creating tenant user own email overrides =>
    obtain ⟨row, hrow, hticket⟩ := holds
    refine ⟨row, hrow, hticket.imp_right ?_⟩
    rintro ⟨ticket, hmem⟩
    refine ⟨ticket, ?_⟩
    rw [created_reply]
    exact List.mem_append_left _ hmem

theorem Linked.made (linked : Linked office) {row : InboundEmail}
    (hrow : office.db.emails[id]? = some row) (hnone : row.ticket = none)
    (hemails : db'.emails = office.db.emails.modify id fun row =>
      { row with ticket := some ticket, status := .ticketCreated }) :
    Linked (Office.reply { office with db := db' } id (.created ticket number subject)) := by
  have hcreated : (Office.reply { office with db := db' } id
      (.created ticket number subject)).created = office.created ++ [(id, ticket)] :=
    created_reply ..
  refine ⟨?_, fun own made hmem => ?_⟩
  · unfold OneTicket
    rw [hcreated, List.map_append]
    refine List.nodup_append.mpr ⟨linked.one, List.nodup_singleton _, ?_⟩
    rintro own hown _ hlast rfl
    obtain ⟨⟨_, made⟩, hmem, rfl⟩ := List.mem_map.mp hown
    obtain rfl := List.mem_singleton.mp hlast
    obtain ⟨email, hemail, hmade⟩ := linked.stored _ made hmem
    rw [hrow, Option.some.injEq] at hemail
    rw [← hemail, hnone] at hmade
    cases hmade
  · have hget : db'.emails[own]? = (fun row : InboundEmail => if id = own then
        { row with ticket := some ticket, status := .ticketCreated } else row) <$>
          office.db.emails[own]? := by
      rw [hemails, List.getElem?_modify]
    rw [hcreated, List.mem_append] at hmem
    have hdb : (Office.reply { office with db := db' } id
      (.created ticket number subject)).db.emails[own]? = db'.emails[own]? := rfl
    rw [hdb, hget]
    rcases hmem with hmem | hmem
    · obtain ⟨email, hemail, hmade⟩ := linked.stored own made hmem
      have hother : id ≠ own := by
        rintro rfl
        rw [hrow, Option.some.injEq] at hemail
        rw [← hemail, hnone] at hmade
        cases hmade
      refine ⟨email, ?_, hmade⟩
      rw [hemail]
      exact congrArg some (if_neg hother)
    · obtain ⟨rfl, rfl⟩ := Prod.mk.inj (List.mem_singleton.mp hmem)
      rw [hrow]
      exact ⟨_, congrArg some (if_pos rfl), rfl⟩

theorem Call.Holds.made (holds : call.Holds office)
    (hemails : db'.emails = office.db.emails.modify id fun row =>
      { row with ticket := some ticket, status := .ticketCreated }) :
    call.Holds (Office.reply { office with db := db' } id (.created ticket number subject)) := by
  cases call with
  | idle => trivial
  | creating tenant user own email overrides =>
    obtain ⟨row, hrow, hticket⟩ := holds
    have hcreated : (Office.reply { office with db := db' } id
        (.created ticket number subject)).created = office.created ++ [(id, ticket)] :=
      created_reply ..
    have hget : db'.emails[own]? = some (if id = own then
        { row with ticket := some ticket, status := .ticketCreated } else row) := by
      rw [hemails, List.getElem?_modify, hrow]
      rfl
    refine ⟨_, hget, ?_⟩
    rw [hcreated]
    by_cases hown : id = own
    · subst hown
      exact .inr ⟨ticket, List.mem_append_right _ (List.mem_singleton.mpr rfl)⟩
    · rw [if_neg hown]
      exact hticket.imp_right fun ⟨made, hmem⟩ => ⟨made, List.mem_append_left _ hmem⟩

theorem sound_turns (desk : Desk) :
    World.Sound (fun _ => act desk) (Unspent desk) Linked fun _ office call => call.Holds office := by
  have hturn : ∀ world process action, Steady world → Unspent desk world (process, action) →
      Linked (act desk world.shared (world.locals process) action).1 ∧
      (act desk world.shared (world.locals process) action).2.Holds
        (act desk world.shared (world.locals process) action).1 ∧
      ∀ call : Call, call.Holds world.shared →
        call.Holds (act desk world.shared (world.locals process) action).1 := by
    intro world process action steady unspent
    have holds := steady.locals process
    cases action with
    | request tenant user id form =>
      dsimp only [act]
      split
      · rename_i answer hexamined
        exact ⟨steady.shared.replied (examine_inl hexamined), trivial,
          fun _ holds => holds.replied⟩
      · rename_i email overrides hexamined
        obtain ⟨hemail, hnone⟩ := examine_inr hexamined
        split
        · exact ⟨steady.shared, trivial, fun _ holds => holds⟩
        · exact ⟨steady.shared, ⟨email, hemail, .inl hnone⟩, fun _ holds => holds⟩
    | fail message =>
      cases hlocal : world.locals process with
      | idle => exact ⟨steady.shared, trivial, fun _ holds => holds⟩
      | creating tenant user id email overrides =>
        exact ⟨steady.shared.replied (fun _ _ _ => Answer.noConfusion), trivial,
          fun _ holds => holds.replied⟩
    | proceed =>
      cases hlocal : world.locals process with
      | idle => exact ⟨steady.shared, trivial, fun _ holds => holds⟩
      | creating tenant user id email overrides =>
        rw [hlocal] at holds
        dsimp only [Unspent] at unspent
        rw [hlocal] at unspent
        dsimp only [act]
        split
        · exact ⟨steady.shared.replied (fun _ _ _ => Answer.noConfusion), trivial,
            fun _ holds => holds.replied⟩
        · rename_i ticket db' hmade
          obtain ⟨hstatuses, hemails⟩ := makeTicket_cases hmade
          obtain ⟨row, hrow, -⟩ := holds
          exact ⟨steady.shared.made hrow (unspent hstatuses row hrow) hemails, trivial,
            fun _ holds => holds.made hemails⟩
  refine ⟨fun world process action steady unspent => ?_,
    fun world process action other steady unspent _ => ?_⟩
  · obtain ⟨hlinked, hown, -⟩ := hturn world process action steady unspent
    exact ⟨hlinked, hown⟩
  · exact (hturn world process action steady unspent).2.2 _ (steady.locals other)

/-- Requests for an email that a ticket has been created from are told of it. -/
theorem Linked.answersExisting (linked : Linked world.shared) (event : ℕ × Action) :
    AnswersExisting desk world event := by
  obtain ⟨process, action⟩ := event
  cases action with
  | proceed => trivial
  | fail message => trivial
  | request tenant user id form =>
    intro ticket email level hcreated hemail htenant hlevel hagent
    obtain ⟨row, hrow, hticket⟩ := linked.stored id ticket hcreated
    rw [hemail, Option.some.injEq] at hrow
    subst hrow
    have hfound : world.shared.db.emails[id]?.filter (fun email => email.tenant == some tenant) =
        some email := by
      rw [hemail]
      exact Option.filter_eq_some_iff.mpr ⟨rfl, beq_iff_eq.mpr htenant⟩
    have hexamined : examine desk tenant user id form world.shared.db =
        .inl (.exists s!"This email already has ticket #{numberOf ticket world.shared.db}." ticket
          (numberOf ticket world.shared.db)) := by
      unfold examine
      rw [hlevel]
      dsimp only
      rw [hfound]
      dsimp only
      rw [if_neg (Nat.not_lt.mpr hagent), hticket]
    dsimp only [act]
    rw [hexamined]

/-- A second ticket is made from an email exactly when it has got one since it was read. -/
theorem unspent_of_oneTicket (steady : Steady world) {event : ℕ × Action}
    (one : OneTicket (turn desk world event).shared) : Unspent desk world event := by
  obtain ⟨process, action⟩ := event
  cases action with
  | request => trivial
  | fail => trivial
  | proceed =>
    have holds := steady.locals process
    dsimp only [Unspent]
    cases hlocal : world.locals process with
    | idle => trivial
    | creating tenant user id email overrides =>
      intro hstatuses row hrow
      rw [hlocal] at holds
      obtain ⟨found, hfound, hticket⟩ := holds
      rw [hrow, Option.some.injEq] at hfound
      subst hfound
      rcases hticket with hnone | ⟨made, hmem⟩
      · exact hnone
      · have hok := makeTicket_isOk desk.toSite tenant user overrides id email world.shared.db
        rw [if_pos hstatuses] at hok
        obtain ⟨db', hok, -⟩ := hok
        rw [World.turn_shared, hlocal] at one
        dsimp only [act] at one
        rw [hok] at one
        dsimp only [OneTicket] at one
        rw [created_reply, List.map_append] at one
        obtain ⟨-, -, hapart⟩ := List.nodup_append.mp one
        exact absurd rfl (hapart id (List.mem_map.mpr ⟨_, hmem, rfl⟩) id List.mem_cons_self)

end Laws

/--
One ticket at most is created from an email, and requests that come later are answered with it, if
and only if no email has got a ticket between the reading of a request and its transaction.
-/
theorem oneTicket_iff (desk : Desk) (db : Db) (events : List (ℕ × Action)) :
    Always (turn desk) (fun world => OneTicket world.shared) (quiet db) events ∧
        Every (turn desk) (AnswersExisting desk) (quiet db) events ↔
      Every (turn desk) (Unspent desk) (quiet db) events := by
  have hstep : ∀ world event, Steady world → Unspent desk world event →
      Steady (turn desk world event) := fun _ _ => (sound_turns desk).turn
  refine always_and_every_iff (fun _ steady => steady.shared.one) hstep ?_ (steady_quiet db) events
  intro world event steady
  refine ⟨fun sound => unspent_of_oneTicket steady sound.1, fun unspent => ?_⟩
  exact ⟨(hstep world event steady unspent).shared.one, steady.shared.answersExisting event⟩

/-- A tenant with one agent. -/
def agentDesk : Desk where
  runAllFilters _ := none
  isBounce _ := false
  resolveTenantFromAddress _ := none
  getSystemUser _ := some 0
  inboxHubEnabled _ := false
  hasStatuses _ := true
  stripQuotedReply body := body
  level _ _ := some 30

/-- An email that has been handed to the agent. -/
def handedEmail : Db where
  emails := [{ tenant := some { pk := 0, slug := "acme" }, messageId := "m" }]

/-- A double click: both requests read the email before either makes its ticket. -/
theorem two_tickets_on_double_click :
    ¬ (Always (turn agentDesk) (fun world => OneTicket world.shared) (quiet handedEmail)
          [ (0, .request { pk := 0, slug := "acme" } 1 0 (.ok {})),
            (1, .request { pk := 0, slug := "acme" } 1 0 (.ok {})),
            (0, .proceed), (1, .proceed) ] ∧
        Every (turn agentDesk) (AnswersExisting agentDesk) (quiet handedEmail)
          [ (0, .request { pk := 0, slug := "acme" } 1 0 (.ok {})),
            (1, .request { pk := 0, slug := "acme" } 1 0 (.ok {})),
            (0, .proceed), (1, .proceed) ]) := by
  rintro ⟨always, -⟩
  have htwo : (run (turn agentDesk) (quiet handedEmail)
      [ (0, .request { pk := 0, slug := "acme" } 1 0 (.ok {})),
        (1, .request { pk := 0, slug := "acme" } 1 0 (.ok {})),
        (0, .proceed), (1, .proceed) ]).shared.created.map Prod.fst = [0, 0] := by
    decide +kernel
  have hone := always.finish
  dsimp only [OneTicket] at hone
  rw [htwo] at hone
  exact absurd hone (by decide)

end Kanzan.Mail.TicketRequests

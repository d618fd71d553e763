import Mathlib.Algebra.GroupWithZero.Nat
import Kanzan.Billing.Resources
import Kanzan.Support.Results

/-!
# The limits of a plan over a period

What each operation adds to the contacts, the tickets and the files of a tenant, and when they stay
within the limits.  The counters that the checks look at are never written.
-/

namespace Kanzan.Billing.Resources

open Support
open Mail (Tenant Contact InboundEmail Session Site Creation)
open Mail.TicketRequests (Overrides)

/-! ## What a tenant has -/

section Counts

variable (tenant : Tenant) (books : Books)

def Books.contactsOf : ℕ := books.db.contacts.countP fun row => row.tenant == tenant

def Books.ticketsOf : ℕ := books.db.tickets.countP fun row => row.tenant == tenant

def bytesIn (attachments : List Attachment) : ℕ :=
  ((attachments.filter fun row => row.tenant == tenant).map Attachment.sizeBytes).sum

def Books.bytesOf : ℕ := bytesIn tenant books.attachments

/-- The limits of the plan of a tenant are kept. -/
structure WithinLimits (limits : Limits) : Prop where
  contacts : ∀ limit, limits.maxContacts = some limit → books.contactsOf tenant ≤ limit
  tickets : ∀ limit, limits.maxTicketsPerMonth = some limit → books.ticketsOf tenant ≤ limit
  bytes : ∀ limit, limits.maxStorageMb = some limit → books.bytesOf tenant ≤ limit * mebibyte

def Within (shop : Shop) : Prop :=
  ∀ plan, shop.billing.planOf tenant.pk = some plan →
    WithinLimits tenant books (shop.limits plan)

end Counts

/-! ## What an operation adds -/

/-- What is added to the contacts, the tickets and the stored bytes of a tenant. -/
structure Demand where
  contacts : ℕ := 0
  tickets : ℕ := 0
  bytes : ℕ := 0

section Runs

variable (site : Site)

/-- The run of the pipeline that claims its email: the tenant, and the session that handles it. -/
def claimOf (id : ℕ) (db : Mail.Db) : Option (Tenant × Session) :=
  match db.emails[id]? with
  | none => none
  | some inbound =>
    let s : Session := { db, id, inbound }
    if !inbound.isOpen then none
    else
      let s := s.save fun inbound => { inbound with status := .processing }
      match site.runAllFilters s.inbound, Mail.tenantOf site s.inbound with
      | none, some tenant =>
        let named := s.save fun inbound => { inbound with tenant := some tenant }
        let key := Mail.idemKey tenant named.inbound.messageId
        if Mail.findsDuplicate site id inbound db || Mail.isClaimed key id named.db then none
        else
          some (tenant, named.save fun inbound => { inbound with idempotencyKey := some key })
      | _, _ => none

variable (tenant : Tenant) (s : Session)

def threadOf : Option ℕ := Mail.findExistingTicket tenant s.inbound s.db

def succeeds : Bool :=
  (site.getSystemUser tenant).isSome &&
    ((threadOf tenant s).isSome || site.inboxHubEnabled tenant || site.hasStatuses tenant)

def knowsSender : Bool :=
  s.db.contacts.any fun row => row.tenant == tenant && row.email == s.inbound.senderEmail

def makesTicket : Bool :=
  (site.getSystemUser tenant).isSome && (threadOf tenant s).isNone &&
    !site.inboxHubEnabled tenant && site.hasStatuses tenant

def repliesTo : Option ℕ :=
  if (site.getSystemUser tenant).isSome ∧
      Mail.strip (site.stripQuotedReply s.inbound.bodyText) ≠ "" then
    threadOf tenant s
  else none

end Runs

def fileBytes (files : List File) : ℕ := ((files.filter File.isAllowed).map File.sizeBytes).sum

section Demands

variable (shop : Shop) (tenant : Tenant) (books : Books)

def filesGoTo (owner : Tenant) (s : Session) : Option Tenant :=
  if makesTicket shop.toSite owner s then some owner
  else
    ((repliesTo shop.toSite owner s).bind fun ticket => s.db.tickets[ticket]?).map
      Mail.Ticket.tenant

def convertible (owner : Tenant) (id : ℕ) : Bool :=
  (books.db.hubEmails.any fun row => row.inbound == id && row.tenant == owner) &&
    books.db.emails[id]?.isSome && decide (id ∉ books.converted) && shop.hasStatuses owner

def splittable (owner : Tenant) (source : ℕ) (commentIds : List ℕ) : Bool :=
  (books.db.tickets[source]?.any fun ticket => ticket.tenant == owner) &&
    decide (commentIds ≠ []) &&
      decide ((books.db.comments.zipIdx.filter fun row =>
        row.2 ∈ commentIds && row.1.ticket == source).length = commentIds.length) &&
        shop.hasStatuses owner

/-- What an operation adds for a tenant, if it gets past its checks. -/
def demandOf : Op → Demand
  | .createContact contact =>
    { contacts :=
        if contact.tenant = tenant ∧ ¬ (books.db.contacts.any fun row =>
            row.tenant == contact.tenant && row.email == contact.email) = true ∧
            checkCanCreateContact shop contact.tenant books = .ok () then 1
        else 0 }
  | .createTicket owner _ _ _ _ =>
    { tickets :=
        if owner = tenant ∧ checkCanCreateTicket shop owner books = .ok () then 1 else 0 }
  | .receive _ _ => {}
  | .process id =>
    match claimOf shop.toSite id books.db with
    | none => {}
    | some (owner, s) =>
      { contacts :=
          if owner = tenant ∧ succeeds shop.toSite owner s = true ∧
              knowsSender owner s = false then 1
          else 0
        tickets := if owner = tenant ∧ makesTicket shop.toSite owner s = true then 1 else 0
        bytes := if filesGoTo shop owner s = some tenant then fileBytes (books.stored id) else 0 }
  | .convert owner _ _ id =>
    if owner = tenant ∧ convertible shop books owner id = true then
      { tickets := 1, bytes := fileBytes (books.stored id) }
    else {}
  | .split owner _ source commentIds _ =>
    { tickets :=
        if owner = tenant ∧ splittable shop books owner source commentIds = true then 1 else 0 }
  | .upload owner file permitted =>
    { bytes :=
        if owner = tenant ∧ file.isAllowed = true ∧ permitted = true ∧
            checkStorage shop owner books file.sizeBytes = .ok () then file.sizeBytes
        else 0 }
  | .deleteAttachment _ _ => {}

def HasRoom (op : Op) : Prop :=
  ∀ plan, shop.billing.planOf tenant.pk = some plan →
    (∀ limit, (shop.limits plan).maxContacts = some limit →
      books.contactsOf tenant + (demandOf shop tenant books op).contacts ≤ limit) ∧
    (∀ limit, (shop.limits plan).maxTicketsPerMonth = some limit →
      books.ticketsOf tenant + (demandOf shop tenant books op).tickets ≤ limit) ∧
    ∀ limit, (shop.limits plan).maxStorageMb = some limit →
      books.bytesOf tenant + (demandOf shop tenant books op).bytes ≤ limit * mebibyte

end Demands

/-! ## A run of the pipeline -/

section Pipeline

variable {site : Site} {tenant owner : Tenant} {s s' : Session} {id : ℕ} {db db' : Mail.Db}
  {inbound : InboundEmail}

theorem findExistingTicket_congr (hemails : db'.emails = db.emails)
    (htickets : db'.tickets = db.tickets) :
    Mail.findExistingTicket tenant inbound db' = Mail.findExistingTicket tenant inbound db := by
  simp only [Mail.findExistingTicket, Mail.matchByInReplyTo, Mail.matchByReferences,
    Mail.matchBySubject, Mail.linkedTo, Mail.linkedEmail, hemails, htickets]

theorem findOrCreateContact_count (owner tenant : Tenant) (email name : String) (db : Mail.Db) :
    ((Mail.findOrCreateContact owner email name db).1.contacts.countP fun row =>
        row.tenant == tenant) =
      (db.contacts.countP fun row => row.tenant == tenant) +
        if owner = tenant ∧
            (db.contacts.any fun row => row.tenant == owner && row.email == email) = false then 1
        else 0 := by
  unfold Mail.findOrCreateContact
  cases hfound : db.contacts.findIdx? fun row => row.tenant == owner && row.email == email with
  | some contact =>
    have hany : (db.contacts.any fun row => row.tenant == owner && row.email == email) = true := by
      rw [← List.findIdx?_isSome, hfound]
      rfl
    dsimp only
    rw [hany, if_neg (fun hboth => Bool.noConfusion hboth.2), Nat.add_zero]
  | none =>
    have hany : (db.contacts.any fun row => row.tenant == owner && row.email == email) =
        false := by
      rw [← List.findIdx?_isSome, hfound]
      rfl
    dsimp only
    rw [hany, List.countP_append, List.countP_singleton]
    simp

/-- What becomes of a claimed email that is handled. -/
structure Handled (site : Site) (tenant : Tenant) (s s' : Session) : Prop where
  contacts : s'.db.contacts = (Mail.findOrCreateContact tenant s.inbound.senderEmail
    s.inbound.senderName s.db).1.contacts
  tickets : ∃ made : List Mail.Ticket, s'.db.tickets = s.db.tickets ++ made ∧
    made.map Mail.Ticket.tenant = if makesTicket site tenant s = true then [tenant] else []
  files : (if .ticket ∈ s'.created ∨ .reply ∈ s'.created then
      (s'.inbound.ticket.bind fun ticket => s'.db.tickets[ticket]?).map Mail.Ticket.tenant
    else none) =
      if makesTicket site tenant s then some tenant
      else ((repliesTo site tenant s).bind fun ticket => s.db.tickets[ticket]?).map
        Mail.Ticket.tenant

theorem handleClaimed_spec (site : Site) (tenant : Tenant) {s : Session} (fresh : s.created = []) :
    if succeeds site tenant s then
      ∃ s', Mail.handleClaimed site tenant s = .ok s' ∧ Handled site tenant s s'
    else ∃ message, Mail.handleClaimed site tenant s = .error message := by
  obtain ⟨hemails, htickets, -, -⟩ :=
    Mail.findOrCreateContact_rows tenant s.inbound.senderEmail s.inbound.senderName s.db
  have hthread : Mail.findExistingTicket tenant s.inbound (Mail.findOrCreateContact tenant
      s.inbound.senderEmail s.inbound.senderName s.db).1 = threadOf tenant s :=
    findExistingTicket_congr hemails htickets
  unfold Mail.handleClaimed
  cases huser : site.getSystemUser tenant with
  | none =>
    rw [succeeds, huser, Option.isSome_none, Bool.false_and, if_neg Bool.false_ne_true]
    exact ⟨_, rfl⟩
  | some systemUser =>
    dsimp only
    rw [hthread]
    rw [succeeds, huser, Option.isSome_some, Bool.true_and]
    cases hticket : threadOf tenant s with
    | some ticket =>
      have hmakes : makesTicket site tenant s = false := by
        rw [makesTicket, huser, hticket]
        rfl
      rw [Option.isSome_some, Bool.true_or, Bool.true_or, if_pos rfl]
      refine ⟨_, rfl, ?_⟩
      unfold Mail.addReplyToTicket
      by_cases hblank : Mail.strip (site.stripQuotedReply s.inbound.bodyText) = ""
      · have hreplies : repliesTo site tenant s = none :=
          if_neg fun hboth => hboth.2 hblank
        dsimp only
        rw [if_pos hblank]
        refine ⟨rfl, ⟨[], by rw [List.append_nil]; exact htickets, by rw [hmakes]; rfl⟩, ?_⟩
        rw [hmakes, hreplies]
        simp [Mail.reject, Mail.Session.save, fresh]
      · have hreplies : repliesTo site tenant s = some ticket := by
          rw [repliesTo, if_pos ⟨by rw [huser]; rfl, hblank⟩, hticket]
        dsimp only
        rw [if_neg hblank]
        refine ⟨rfl, ⟨[], by rw [List.append_nil]; exact htickets, by rw [hmakes]; rfl⟩, ?_⟩
        rw [hmakes, hreplies]
        simp [Mail.Session.save, fresh, htickets]
    | none =>
      have hreplies : repliesTo site tenant s = none := by
        rw [repliesTo, hticket, ite_self]
      dsimp only
      rw [Option.isSome_none, Bool.false_or]
      cases hhub : site.inboxHubEnabled tenant with
      | true =>
        have hmakes : makesTicket site tenant s = false := by
          rw [makesTicket, hhub, Bool.not_true, Bool.and_false, Bool.false_and]
        rw [if_pos rfl, Bool.true_or, if_pos rfl]
        refine ⟨_, rfl, ?_⟩
        unfold Mail.parkEmailInHub
        dsimp only
        split
        all_goals
          refine ⟨rfl, ⟨[], by rw [List.append_nil]; exact htickets, by rw [hmakes]; rfl⟩, ?_⟩
          rw [hmakes, hreplies]
          simp [Mail.Session.save, fresh]
      | false =>
        rw [if_neg Bool.false_ne_true, Bool.false_or]
        unfold Mail.createTicketFromEmail
        cases hstatuses : site.hasStatuses tenant with
        | false =>
          rw [if_neg Bool.false_ne_true]
          exact ⟨_, rfl⟩
        | true =>
          have hmakes : makesTicket site tenant s = true := by
            rw [makesTicket, huser, hticket, hhub, hstatuses]
            rfl
          rw [if_pos rfl]
          refine ⟨_, rfl, rfl, ⟨_, congrArg (· ++ _) htickets, by rw [hmakes]; rfl⟩, ?_⟩
          rw [hmakes]
          simp [Mail.Session.save, fresh]

theorem processInboundEmail_spec (site : Site) (id : ℕ) (db : Mail.Db) :
    match claimOf site id db with
    | some (tenant, s) =>
      Mail.processInboundEmail site id db = Mail.handleClaimed site tenant s ∧
        s.db.contacts = db.contacts ∧ s.db.tickets = db.tickets ∧ s.created = []
    | none => ∀ s, Mail.processInboundEmail site id db = .ok s →
        s.db.contacts = db.contacts ∧ s.db.tickets = db.tickets ∧ s.created = [] := by
  unfold claimOf Mail.processInboundEmail
  cases hrow : db.emails[id]? with
  | none => exact fun s success => by cases success
  | some inbound =>
    dsimp only
    cases hopen : inbound.isOpen with
    | false =>
      rw [Bool.not_false, if_pos rfl, if_pos rfl]
      intro s success
      rw [← Except.ok.inj success]
      exact ⟨rfl, rfl, rfl⟩
    | true =>
      rw [Bool.not_true, if_neg Bool.false_ne_true, if_neg Bool.false_ne_true]
      unfold Mail.processUnguarded
      generalize hstarted : Session.save { db, id, inbound }
        (fun inbound => { inbound with status := .processing }) = started
      have hcontacts : started.db.contacts = db.contacts := by rw [← hstarted]; rfl
      have htickets : started.db.tickets = db.tickets := by rw [← hstarted]; rfl
      have hcreated : started.created = [] := by rw [← hstarted]; rfl
      have hid : started.id = id := by rw [← hstarted]; rfl
      cases hreason : site.runAllFilters started.inbound with
      | some reason =>
        intro s success
        rw [← Except.ok.inj success]
        split <;> exact ⟨hcontacts, htickets, hcreated⟩
      | none =>
        dsimp only
        cases htenant : Mail.tenantOf site started.inbound with
        | none =>
          intro s success
          rw [← Except.ok.inj success]
          exact ⟨hcontacts, htickets, hcreated⟩
        | some tenant =>
          dsimp only
          rw [show (started.save fun inbound =>
            { inbound with tenant := some tenant }).id = id from hid]
          cases hduplicate : Mail.findsDuplicate site id inbound db with
          | true =>
            rw [Bool.true_or, if_pos rfl, if_pos rfl]
            intro s success
            rw [← Except.ok.inj success]
            exact ⟨hcontacts, htickets, hcreated⟩
          | false =>
            rw [Bool.false_or, if_neg Bool.false_ne_true]
            split
            · rename_i tenant' s' hclaim
              split at hclaim
              · cases hclaim
              · rename_i hfree
                obtain ⟨rfl, rfl⟩ := Prod.mk.inj (Option.some.inj hclaim)
                rw [if_neg hfree]
                exact ⟨rfl, hcontacts, htickets, hcreated⟩
            · rename_i hclaim
              split at hclaim
              · rename_i hclaimed
                rw [if_pos hclaimed]
                exact fun s success => by cases success
              · cases hclaim

end Pipeline

/-! ## What is added -/

section Growth

variable {shop : Shop} {tenant owner : Tenant} {books after between : Books} {demand : Demand}
  {id : ℕ}

/-- The counts of a tenant have grown by a demand. -/
structure Grows (tenant : Tenant) (demand : Demand) (books after : Books) : Prop where
  contacts : after.contactsOf tenant = books.contactsOf tenant + demand.contacts
  tickets : after.ticketsOf tenant = books.ticketsOf tenant + demand.tickets
  bytes : after.bytesOf tenant = books.bytesOf tenant + demand.bytes

theorem Grows.refl (tenant : Tenant) (books : Books) : Grows tenant {} books books :=
  ⟨rfl, rfl, rfl⟩

theorem bytesIn_append (tenant : Tenant) (rows more : List Attachment) :
    bytesIn tenant (rows ++ more) = bytesIn tenant rows + bytesIn tenant more := by
  rw [bytesIn, List.filter_append, List.map_append, List.sum_append]
  rfl

theorem attach_bytes (owner tenant : Tenant) (books : Books) (file : File) :
    (books.attach owner file).bytesOf tenant =
      books.bytesOf tenant + if owner = tenant then file.sizeBytes else 0 := by
  rw [Books.bytesOf, Books.attach, bytesIn_append]
  congr 1
  by_cases howner : owner = tenant <;> simp [bytesIn, howner]

theorem foldl_attach_db (owner : Tenant) (files : List File) (books : Books) :
    (files.foldl (Books.attach owner) books).db = books.db := by
  induction files generalizing books with
  | nil => rfl
  | cons file rest ih => exact ih (books.attach owner file)

theorem foldl_attach_bytes (owner tenant : Tenant) (files : List File) (books : Books) :
    (files.foldl (Books.attach owner) books).bytesOf tenant =
      books.bytesOf tenant + if owner = tenant then (files.map File.sizeBytes).sum else 0 := by
  induction files generalizing books with
  | nil => exact (ite_self 0).symm ▸ rfl
  | cons file rest ih =>
    rw [List.foldl_cons, ih, attach_bytes, List.map_cons, List.sum_cons, Nat.add_assoc]
    congr 1
    split <;> rfl

@[simp]
theorem attachInboundFiles_db (owner : Tenant) (id : ℕ) (books : Books) :
    (attachInboundFiles owner id books).db = books.db :=
  foldl_attach_db ..

theorem attachInboundFiles_bytes (owner tenant : Tenant) (id : ℕ) (books : Books) :
    (attachInboundFiles owner id books).bytesOf tenant =
      books.bytesOf tenant + if owner = tenant then fileBytes (books.stored id) else 0 :=
  foldl_attach_bytes ..

theorem attachInboundFiles_grows (owner tenant : Tenant) (id : ℕ) (books : Books) :
    Grows tenant { bytes := if owner = tenant then fileBytes (books.stored id) else 0 } books
      (attachInboundFiles owner id books) where
  contacts := by rw [Books.contactsOf, attachInboundFiles_db]; rfl
  tickets := by rw [Books.ticketsOf, attachInboundFiles_db]; rfl
  bytes := attachInboundFiles_bytes ..

theorem insertTicket_tickets (owner tenant : Tenant) (row : ℕ → Mail.Ticket) (db : Mail.Db) :
    ((insertTicket owner row db).tickets.countP fun row => row.tenant == tenant) =
      (db.tickets.countP fun row => row.tenant == tenant) + if owner = tenant then 1 else 0 := by
  rw [insertTicket, List.countP_append, List.countP_singleton]
  simp

theorem createContact_grows (contact : Contact) (books : Books) :
    Grows tenant (demandOf shop tenant books (.createContact contact)) books
      (step shop books (.createContact contact)) := by
  dsimp only [step, demandOf, createContact]
  by_cases hknown : (books.db.contacts.any fun row =>
      row.tenant == contact.tenant && row.email == contact.email) = true
  · rw [if_pos hknown, if_neg fun hall => hall.2.1 hknown]
    exact .refl tenant books
  · rw [if_neg hknown]
    cases hcheck : checkCanCreateContact shop contact.tenant books with
    | error message =>
      simp only [reduceCtorEq, and_false, if_false]
      exact .refl tenant books
    | ok _ =>
      refine ⟨?_, rfl, rfl⟩
      dsimp only [Except.map, Except.toOption, Option.getD, Books.contactsOf]
      rw [List.countP_append, List.countP_singleton]
      congr 1
      by_cases howner : contact.tenant = tenant
      · rw [if_pos (beq_iff_eq.mpr howner), if_pos ⟨howner, hknown, rfl⟩]
      · rw [if_neg (mt beq_iff_eq.mp howner), if_neg fun hall => howner hall.1]

theorem createTicket_grows (owner : Tenant) (user contact : ℕ) (subject description : String)
    (books : Books) :
    Grows tenant (demandOf shop tenant books (.createTicket owner user contact subject description))
      books (step shop books (.createTicket owner user contact subject description)) := by
  dsimp only [step, demandOf, createTicket]
  cases hcheck : checkCanCreateTicket shop owner books with
  | error message =>
    simp only [reduceCtorEq, and_false, if_false]
    exact .refl tenant books
  | ok _ =>
    refine ⟨rfl, ?_, rfl⟩
    dsimp only [Except.map, Except.toOption, Option.getD, Books.ticketsOf]
    rw [insertTicket_tickets]
    simp

theorem upload_grows (owner : Tenant) (file : File) (permitted : Bool) (books : Books) :
    Grows tenant (demandOf shop tenant books (.upload owner file permitted)) books
      (step shop books (.upload owner file permitted)) := by
  dsimp only [step, demandOf, upload]
  cases hallowed : file.isAllowed with
  | false =>
    rw [if_neg fun hall => Bool.noConfusion hall.2.1]
    exact .refl tenant books
  | true =>
    cases permitted with
    | false =>
      rw [if_neg fun hall => Bool.noConfusion hall.2.2.1]
      exact .refl tenant books
    | true =>
      cases hcheck : checkStorage shop owner books file.sizeBytes with
      | error message =>
        simp only [reduceCtorEq, and_false, if_false]
        exact .refl tenant books
      | ok _ =>
        refine ⟨rfl, rfl, (attach_bytes owner tenant books file).trans ?_⟩
        simp

theorem split_grows (owner : Tenant) (actor source : ℕ) (commentIds : List ℕ) (subject : String)
    (books : Books) :
    Grows tenant (demandOf shop tenant books (.split owner actor source commentIds subject)) books
      (step shop books (.split owner actor source commentIds subject)) := by
  dsimp only [step, demandOf, splitTicket]
  have hnot : splittable shop books owner source commentIds = false →
      ({ tickets := if owner = tenant ∧ splittable shop books owner source commentIds = true then 1
          else 0 } : Demand) = {} := by
    intro hfalse
    rw [if_neg fun hall => Bool.noConfusion (hfalse.symm.trans hall.2)]
  unfold splittable at hnot ⊢
  cases hsource : books.db.tickets[source]? with
  | none =>
    rw [hsource] at hnot
    rw [hnot rfl]
    exact .refl tenant books
  | some ticket =>
    rw [hsource] at hnot
    by_cases howned : (ticket.tenant == owner) = true
    · rw [Option.filter_some, if_pos howned]
      dsimp only
      by_cases hempty : commentIds = []
      · rw [if_pos hempty, hnot (by simp [hempty])]
        exact .refl tenant books
      · rw [if_neg hempty]
        by_cases hcount : (books.db.comments.zipIdx.filter fun row =>
            decide (row.2 ∈ commentIds) && row.1.ticket == source).length = commentIds.length
        · rw [if_neg (not_not.mpr hcount)]
          cases hstatuses : shop.hasStatuses owner with
          | false =>
            rw [hstatuses] at hnot
            rw [hnot (by rw [Bool.and_false]), Bool.not_false, if_pos rfl]
            exact .refl tenant books
          | true =>
            rw [Bool.not_true, if_neg Bool.false_ne_true]
            refine ⟨rfl, ?_, rfl⟩
            dsimp only [Except.toOption, Option.getD, Books.ticketsOf]
            rw [insertTicket_tickets]
            simp [hempty, hcount, howned]
        · rw [if_pos hcount, hnot (by simp [hcount])]
          exact .refl tenant books
    · rw [Option.filter_some, if_neg howned, hnot (by simp [howned])]
      exact .refl tenant books

theorem createTicketFromEmail_tickets {site : Site} {contact createdBy ticket : ℕ}
    {overrides : Overrides} {email : InboundEmail} {db db' : Mail.Db}
    (success : Mail.TicketRequests.createTicketFromEmail site owner contact createdBy overrides id
      email db = .ok (ticket, db')) :
    db'.contacts = db.contacts ∧
      (db'.tickets.countP fun row => row.tenant == tenant) =
        (db.tickets.countP fun row => row.tenant == tenant) + if owner = tenant then 1 else 0 := by
  unfold Mail.TicketRequests.createTicketFromEmail at success
  split at success
  · cases success
  · obtain ⟨-, rfl⟩ := Prod.mk.inj (Except.ok.inj success)
    refine ⟨rfl, ?_⟩
    rw [List.countP_append, List.countP_singleton]
    simp

theorem createTicketFromEmail_isOk {site : Site} {contact createdBy : ℕ} {overrides : Overrides}
    {email : InboundEmail} {db : Mail.Db} (hstatuses : site.hasStatuses owner = true) :
    ∃ created, Mail.TicketRequests.createTicketFromEmail site owner contact createdBy overrides id
      email db = .ok created := by
  unfold Mail.TicketRequests.createTicketFromEmail
  rw [hstatuses]
  exact ⟨_, rfl⟩

theorem createTicketFromEmail_error {site : Site} {contact createdBy : ℕ} {overrides : Overrides}
    {email : InboundEmail} {db : Mail.Db} (hnone : site.hasStatuses owner = false) :
    ∃ message, Mail.TicketRequests.createTicketFromEmail site owner contact createdBy overrides id
      email db = .error message := by
  unfold Mail.TicketRequests.createTicketFromEmail
  rw [hnone]
  exact ⟨_, rfl⟩

theorem convert_grows (owner : Tenant) (user : ℕ) (overrides : Overrides) (id : ℕ) (books : Books) :
    Grows tenant (demandOf shop tenant books (.convert owner user overrides id)) books
      (step shop books (.convert owner user overrides id)) := by
  have hnot : convertible shop books owner id = false →
      demandOf shop tenant books (.convert owner user overrides id) = {} := by
    intro hfalse
    dsimp only [demandOf]
    rw [if_neg fun hall => Bool.noConfusion (hfalse.symm.trans hall.2)]
  dsimp only [step, convertToTicket]
  unfold convertible at hnot
  cases hparked : books.db.hubEmails.find? fun row => row.inbound == id && row.tenant == owner with
  | none =>
    have hany : (books.db.hubEmails.any fun row => row.inbound == id && row.tenant == owner) =
        false := by
      rw [← List.isSome_find?, hparked]
      rfl
    rw [hnot (by rw [hany]; rfl)]
    exact .refl tenant books
  | some hubEmail =>
    have hany : (books.db.hubEmails.any fun row => row.inbound == id && row.tenant == owner) =
        true := by
      rw [← List.isSome_find?, hparked]
      rfl
    cases hemail : books.db.emails[id]? with
    | none =>
      rw [hnot (by rw [hany, hemail]; rfl)]
      exact .refl tenant books
    | some email =>
      dsimp only
      by_cases hconverted : id ∈ books.converted
      · rw [if_pos hconverted, hnot (by simp [hconverted])]
        exact .refl tenant books
      · rw [if_neg hconverted]
        cases hstatuses : shop.hasStatuses owner with
        | false =>
          obtain ⟨message, hmessage⟩ := @createTicketFromEmail_error owner id shop.toSite
            hubEmail.contact user overrides email books.db hstatuses
          rw [hmessage, hnot (by rw [hstatuses, Bool.and_false])]
          exact .refl tenant books
        | true =>
          obtain ⟨⟨ticket, db⟩, hcreated⟩ := @createTicketFromEmail_isOk owner id shop.toSite
            hubEmail.contact user overrides email books.db hstatuses
          obtain ⟨hcontacts, htickets⟩ :=
            @createTicketFromEmail_tickets tenant owner id _ _ _ _ _ _ _ _ hcreated
          have hdemand : demandOf shop tenant books (.convert owner user overrides id) =
              { tickets := if owner = tenant then 1 else 0
                bytes := if owner = tenant then fileBytes (books.stored id) else 0 } := by
            have hconvertible : convertible shop books owner id = true := by
              rw [convertible, hany, hemail, hstatuses, decide_eq_true hconverted]
              rfl
            dsimp only [demandOf]
            rw [hconvertible]
            by_cases howner : owner = tenant <;> simp [howner]
          rw [hcreated, hdemand]
          have grows := attachInboundFiles_grows owner tenant id
            { books with db, converted := books.converted ++ [id] }
          refine ⟨grows.contacts.trans ?_, grows.tickets.trans ?_, grows.bytes⟩
          · exact congrArg (List.countP _) hcontacts
          · exact htickets

theorem settle_grows (tenant : Tenant) (id : ℕ) (s : Session) (books : Books) :
    Grows tenant
      { bytes :=
          if (if .ticket ∈ s.created ∨ .reply ∈ s.created then
              (s.inbound.ticket.bind fun ticket => s.db.tickets[ticket]?).map Mail.Ticket.tenant
            else none) = some tenant then
            fileBytes (books.stored id)
          else 0 }
      { books with db := s.db } (settle id s books) := by
  dsimp only [settle]
  split
  · unfold attachTo
    cases hrow : s.inbound.ticket.bind fun ticket => s.db.tickets[ticket]? with
    | none => exact .refl tenant _
    | some row =>
      have grows := attachInboundFiles_grows row.tenant tenant id { books with db := s.db }
      simpa only [Option.map_some, Option.some.injEq] using grows
  · exact .refl tenant _

theorem process_grows (id : ℕ) (books : Books) :
    Grows tenant (demandOf shop tenant books (.process id)) books (step shop books (.process id)) := by
  have hrun := processInboundEmail_spec shop.toSite id books.db
  dsimp only [step, demandOf, processInboundEmail]
  cases hclaim : claimOf shop.toSite id books.db with
  | none =>
    rw [hclaim] at hrun
    cases hdone : Mail.processInboundEmail shop.toSite id books.db with
    | error message => exact .refl tenant books
    | ok s =>
      obtain ⟨hcontacts, htickets, hcreated⟩ := hrun s hdone
      have grows := settle_grows tenant id s books
      rw [hcreated] at grows
      refine ⟨grows.contacts.trans ?_, grows.tickets.trans ?_, grows.bytes.trans ?_⟩
      · exact congrArg (List.countP _) hcontacts
      · exact congrArg (List.countP _) htickets
      · simp [Books.bytesOf]
  | some claim =>
    obtain ⟨owner, s⟩ := claim
    rw [hclaim] at hrun
    obtain ⟨hdone, hcontacts, htickets, hcreated⟩ := hrun
    have hspec := handleClaimed_spec shop.toSite owner hcreated
    dsimp only
    rw [hdone]
    cases hsucceeds : succeeds shop.toSite owner s with
    | false =>
      rw [hsucceeds, if_neg Bool.false_ne_true] at hspec
      obtain ⟨message, hmessage⟩ := hspec
      have hmakes : makesTicket shop.toSite owner s = false := by
        unfold succeeds at hsucceeds
        unfold makesTicket
        cases huser : (shop.getSystemUser owner).isSome with
        | false => rfl
        | true =>
          rw [huser, Bool.true_and, Bool.or_eq_false_iff] at hsucceeds
          rw [hsucceeds.2, Bool.and_false]
      have hfiles : filesGoTo shop owner s = none := by
        unfold succeeds at hsucceeds
        rw [filesGoTo, hmakes, if_neg Bool.false_ne_true, repliesTo]
        split
        · rename_i huser
          rw [huser.1, Bool.true_and, Bool.or_eq_false_iff, Bool.or_eq_false_iff] at hsucceeds
          rw [Option.isSome_eq_false_iff, Option.isNone_iff_eq_none] at hsucceeds
          rw [hsucceeds.1.1]
          rfl
        · rfl
      rw [hmessage, hmakes, hfiles]
      simp only [Bool.false_eq_true, false_and, and_false, if_false, reduceCtorEq]
      exact .refl tenant books
    | true =>
      rw [hsucceeds, if_pos rfl] at hspec
      obtain ⟨s', hs', handled⟩ := hspec
      rw [hs']
      have grows := settle_grows tenant id s' books
      rw [handled.files] at grows
      obtain ⟨made, hmade, howners⟩ := handled.tickets
      refine ⟨grows.contacts.trans ?_, grows.tickets.trans ?_, grows.bytes.trans ?_⟩
      · refine (congrArg (List.countP _) handled.contacts).trans ?_
        rw [findOrCreateContact_count, hcontacts]
        simp [knowsSender, hcontacts, Books.contactsOf]
      · refine (congrArg (List.countP _) hmade).trans ?_
        rw [List.countP_append, htickets]
        dsimp only [Books.ticketsOf]
        congr 1
        have hcount : (made.countP fun row => row.tenant == tenant) =
            (made.map Mail.Ticket.tenant).countP fun owner => owner == tenant := by
          rw [List.countP_map]
          rfl
        rw [hcount, howners]
        cases makesTicket shop.toSite owner s <;> simp [List.countP_cons]
      · rfl

theorem step_grows (shop : Shop) (tenant : Tenant) (books : Books) {op : Op}
    (hkeeps : ∀ owner pk, op ≠ .deleteAttachment owner pk) :
    Grows tenant (demandOf shop tenant books op) books (step shop books op) := by
  cases op with
  | createContact contact => exact createContact_grows contact books
  | createTicket owner user contact subject description =>
    exact createTicket_grows owner user contact subject description books
  | receive inbound files => exact ⟨rfl, rfl, rfl⟩
  | process id => exact process_grows id books
  | convert owner user overrides id => exact convert_grows owner user overrides id books
  | split owner actor source commentIds subject =>
    exact split_grows owner actor source commentIds subject books
  | upload owner file permitted => exact upload_grows owner file permitted books
  | deleteAttachment owner pk => exact absurd rfl (hkeeps owner pk)

theorem bytesIn_filter_le (tenant : Tenant) (keeps : Attachment → Bool) (rows : List Attachment) :
    bytesIn tenant (rows.filter keeps) ≤ bytesIn tenant rows := by
  induction rows with
  | nil => exact Nat.le_refl 0
  | cons row rest ih =>
    have happend : bytesIn tenant (row :: rest) = bytesIn tenant [row] + bytesIn tenant rest :=
      bytesIn_append tenant [row] rest
    rw [happend]
    cases hkept : keeps row with
    | false =>
      rw [List.filter_cons_of_neg (by rw [hkept]; exact Bool.false_ne_true)]
      exact ih.trans (Nat.le_add_left ..)
    | true =>
      rw [List.filter_cons_of_pos hkept]
      calc bytesIn tenant (row :: rest.filter keeps)
          = bytesIn tenant [row] + bytesIn tenant (rest.filter keeps) :=
            bytesIn_append tenant [row] _
        _ ≤ bytesIn tenant [row] + bytesIn tenant rest := Nat.add_le_add_left ih _

theorem deleteAttachment_bytes (owner tenant : Tenant) (pk : ℕ) (books : Books) :
    (deleteAttachment owner pk books).bytesOf tenant ≤ books.bytesOf tenant := by
  exact bytesIn_filter_le tenant (fun row => !(row.tenant == owner && row.pk == pk))
    books.attachments

end Growth

/-! ## Periods -/

section Periods

variable {shop : Shop} {tenant : Tenant} {books start : Books}

/-- A tenant at the beginning of a period, with nothing yet and with counters of zero. -/
structure Opening (tenant : Tenant) (start : Books) : Prop where
  contacts : start.contactsOf tenant = 0
  tickets : start.ticketsOf tenant = 0
  bytes : start.bytesOf tenant = 0
  usage : start.usageOf tenant = {}

theorem Opening.within (opening : Opening tenant start) : Within tenant start shop := by
  intro plan _
  refine ⟨fun limit _ => ?_, fun limit _ => ?_, fun limit _ => ?_⟩
  · rw [opening.contacts]
    exact Nat.zero_le _
  · rw [opening.tickets]
    exact Nat.zero_le _
  · rw [opening.bytes]
    exact Nat.zero_le _

theorem within_step_iff (within : Within tenant books shop) (op : Op) :
    Within tenant (step shop books op) shop ↔ HasRoom shop tenant books op := by
  by_cases hdeletes : ∃ owner pk, op = .deleteAttachment owner pk
  · obtain ⟨owner, pk, rfl⟩ := hdeletes
    refine ⟨fun _ plan hplan => ?_, fun _ plan hplan => ?_⟩
    · obtain ⟨hcontacts, htickets, hbytes⟩ := within plan hplan
      exact ⟨hcontacts, htickets, hbytes⟩
    · obtain ⟨hcontacts, htickets, hbytes⟩ := within plan hplan
      exact ⟨hcontacts, htickets, fun limit hlimit =>
        (deleteAttachment_bytes owner tenant pk books).trans (hbytes limit hlimit)⟩
  · simp only [not_exists] at hdeletes
    obtain ⟨hcontacts, htickets, hbytes⟩ := step_grows shop tenant books hdeletes
    refine forall₂_congr fun plan hplan => ?_
    rw [← hcontacts, ← htickets, ← hbytes]
    exact ⟨fun kept => ⟨kept.contacts, kept.tickets, kept.bytes⟩,
      fun room => ⟨room.1, room.2.1, room.2.2⟩⟩

end Periods

/-! ## A small plan -/

/-- A plan without a limit of users. -/
def smallPlan : Plan := { tier := .pro, name := "Pro", stripeProductId := "prod" }

def acme : Tenant := { pk := 0, slug := "acme" }

/-- A shop with one tenant, whose plan allows for one contact, one ticket and one megabyte. -/
def smallShop : Shop where
  runAllFilters _ := none
  isBounce _ := false
  resolveTenantFromAddress _ := some acme
  getSystemUser _ := some 0
  inboxHubEnabled _ := false
  hasStatuses _ := true
  stripQuotedReply body := body
  billing :=
    { plans := [smallPlan], tenants := [0]
      subscriptions := [{ tenant := 0, plan := smallPlan, stripeCustomerId := "cus" }]
      distinct := List.pairwise_singleton .. }
  limits _ := { maxContacts := some 1, maxTicketsPerMonth := some 1, maxStorageMb := some 1 }
  formatMb _ := ""
  fullName _ := ""

theorem opening_empty : Opening acme {} := ⟨rfl, rfl, rfl, rfl⟩

def customer (email : String) : Contact := { tenant := acme, email, firstName := "", lastName := "" }

theorem smallShop_hasRoom {books : Books} {op : Op}
    (hcontacts : books.contactsOf acme + (demandOf smallShop acme books op).contacts ≤ 1)
    (htickets : books.ticketsOf acme + (demandOf smallShop acme books op).tickets ≤ 1)
    (hbytes : books.bytesOf acme + (demandOf smallShop acme books op).bytes ≤ 1 * mebibyte) :
    HasRoom smallShop acme books op := by
  intro plan _
  refine ⟨fun limit hlimit => ?_, fun limit hlimit => ?_, fun limit hlimit => ?_⟩
  · rw [← Option.some.inj hlimit]
    exact hcontacts
  · rw [← Option.some.inj hlimit]
    exact htickets
  · rw [← Option.some.inj hlimit]
    exact hbytes

end Kanzan.Billing.Resources

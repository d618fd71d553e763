import Kanzan.Access.Endpoints
import Kanzan.Support.Erasure
import Kanzan.Support.Lists

/-!
# Tickets that a member may not see

An agent or a viewer sees the tickets that he has created or is assigned to.  The list, a ticket,
the search and the bulk action do not depend on any others.  The lookup, the context of a contact
and the rendering of a canned response read all tickets of the tenant, but no others than those
that they are asked for.
-/

namespace Kanzan.Access

open Accounts (Membership)
open Attachments (Session)
open Support (Erasure)

/-! ## What a request depends on -/

/-- A ticket of the tenant that the member has created or is assigned to. -/
def isOwn (session : Session) (ticket : Ticket) : Bool :=
  ticket.tenant == session.tenant && agentCanSeeTicket session ticket

/-- The tickets that a member may see; those that he actioned an email on count for a search. -/
def Request.mayShow (session : Session) : Request → Tables → Ticket → Bool
  | .search _, tables, ticket =>
    isOwn session ticket || (isListed session ticket && tables.isActionedBy session ticket)
  | _, _, ticket => isOwn session ticket

/-- The tickets that a request names, by their number, by a text, by the contact or by the key. -/
def Request.asksFor {Json : Type*} (site : Site Json) (session : Session) :
    Request → Ticket → Bool
  | .lookup number q, ticket =>
    isListed session ticket && site.isWanted number (Mail.strip q) ticket
  | .context _ contact _, ticket => isListed session ticket && ticket.contact == some contact
  | .render _ id, ticket => isListed session ticket && some ticket.id == id
  | _, _ => false

def Request.concerns {Json : Type*} (site : Site Json) (session : Session) (request : Request)
    (tables : Tables) (ticket : Ticket) : Bool :=
  request.mayShow session tables ticket || request.asksFor site session ticket

def Db.restrict (shows : Tables → Ticket → Bool) (db : Db) : Db where
  toTables := db.toTables
  tickets := db.tickets.filter (shows db.toTables)
  numbers := db.numbers.sublist (List.filter_sublist.map _)

def otherTickets (shows : Tables → Ticket → Bool) : Erasure Db where
  erase := Db.restrict shows
  erase_erase db := by simp [Db.restrict, List.filter_filter]

/-- A member whose level is above 20, and who is no superuser. -/
structure Restricted (session : Session) (tables : Tables) : Prop where
  level : ∃ membership, tables.membershipOf session = some membership ∧
    20 < membership.level session.now
  isSuperuser : tables.isSuperuser session = false

variable {wanted : Ticket → Bool} {tables : Tables}

/-! ## Tables without the other tickets -/

section Restrict

variable {Json : Type*} {site : Site Json} {session : Session} {db : Db}
  {shows : Tables → Ticket → Bool}

theorem Restricted.isRestricted (restricted : Restricted session tables) :
    tables.isRestricted session = true := by
  obtain ⟨membership, hmembership, hlevel⟩ := restricted.level
  simp [Tables.isRestricted, restricted.isSuperuser, hmembership, hlevel]

theorem filter_restrict (hwanted : ∀ ticket, wanted ticket = true → shows db.toTables ticket = true)
    :
    (db.restrict shows).tickets.filter wanted = db.tickets.filter wanted := by
  apply Support.filter_filter_of_none
  intro ticket _ hhidden
  cases hticket : wanted ticket with
  | false => rfl
  | true => rw [hwanted ticket hticket] at hhidden; cases hhidden

theorem objects_restrict
    (hwanted : ∀ ticket, isListed session ticket = true → wanted ticket = true →
      shows db.toTables ticket = true) :
    ((db.restrict shows).objects session).filter wanted = (db.objects session).filter wanted := by
  unfold Db.objects
  rw [List.filter_filter, List.filter_filter]
  apply filter_restrict
  intro ticket hticket
  rw [Bool.and_eq_true] at hticket
  exact hwanted ticket hticket.2 hticket.1

theorem getQueryset_restrict (restricted : db.isRestricted session = true)
    (hown : ∀ ticket, isOwn session ticket = true → shows db.toTables ticket = true)
    (includeDeleted : Bool) :
    (db.restrict shows).getQueryset session includeDeleted =
      db.getQueryset session includeDeleted := by
  unfold Db.getQueryset
  rw [show (db.restrict shows).isRestricted session = true from restricted, restricted]
  cases includeDeleted with
  | true =>
    simp only [if_true]
    rw [List.filter_filter, List.filter_filter]
    apply filter_restrict
    intro ticket hticket
    rw [Bool.and_comm] at hticket
    exact hown ticket hticket
  | false =>
    simp only [if_true, Bool.false_eq_true, if_false]
    apply objects_restrict
    intro ticket hlisted hsees
    apply hown
    rw [isListed, Bool.and_eq_true] at hlisted
    rw [isOwn, hlisted.1, hsees]
    rfl

theorem contactQueryset_restrict (restricted : db.isRestricted session = true)
    (hown : ∀ ticket, isOwn session ticket = true → shows db.toTables ticket = true) :
    (db.restrict shows).contactQueryset session = db.contactQueryset session := by
  unfold Db.contactQueryset
  rw [show (db.restrict shows).isRestricted session = true from restricted, restricted]
  have hsame : (db.restrict shows).tickets.filter (fun ticket =>
      ticket.tenant == session.tenant && agentCanSeeTicket session ticket) =
        db.tickets.filter (isOwn session) := filter_restrict hown
  simp only [if_true, hsame]
  rfl

theorem number_unique (db : Db) {first second : Ticket} (hfirst : first ∈ db.objects session)
    (hsecond : second ∈ db.objects session) (hnumber : first.number = second.number) :
    first = second := by
  obtain ⟨hfirst, hfirstListed⟩ := List.mem_filter.mp hfirst
  obtain ⟨hsecond, hsecondListed⟩ := List.mem_filter.mp hsecond
  simp only [isListed, Bool.and_eq_true, beq_iff_eq] at hfirstListed hsecondListed
  apply List.inj_on_of_nodup_map db.numbers hfirst hsecond
  rw [hnumber, hfirstListed.1, hsecondListed.1]

/-! ## Endpoints -/

variable (site) in
theorem newest_restrict
    (hwanted : ∀ ticket, isListed session ticket = true → wanted ticket = true →
      shows db.toTables ticket = true) :
    (db.restrict shows).newest site session wanted = db.newest site session wanted := by
  unfold Db.newest
  rw [objects_restrict hwanted]
  rfl

variable (site) in
theorem filterQueryset_restrict (restricted : db.isRestricted session = true)
    (hown : ∀ ticket, isOwn session ticket = true → shows db.toTables ticket = true)
    (query : TicketQuery) :
    (db.restrict shows).filterQueryset session query = db.filterQueryset session query := by
  unfold Db.filterQueryset
  rw [getQueryset_restrict restricted hown]
  rfl

theorem lookup_restrict {number : Option ℕ} {q : String}
    (hasked : ∀ ticket, isListed session ticket = true →
      site.isWanted number (Mail.strip q) ticket = true → shows db.toTables ticket = true) :
    (db.restrict shows).lookup site session number q = db.lookup site session number q := by
  unfold Db.lookup
  dsimp only
  rw [newest_restrict site hasked]

theorem hidden_of_listed {ticket : Ticket} (hlisted : isListed session ticket = true)
    (hhidden : (isOwn session ticket ||
      (isListed session ticket && tables.isActionedBy session ticket)) = false) :
    (ticket.assignee != some session.user) = true ∧ tables.isActionedBy session ticket = false := by
  rw [hlisted, Bool.true_and, Bool.or_eq_false_iff, isOwn,
    (Bool.and_eq_true_iff.mp hlisted).1, Bool.true_and, agentCanSeeTicket,
    Bool.or_eq_false_iff] at hhidden
  exact ⟨by rw [bne, hhidden.1.1]; rfl, hhidden.2⟩

theorem search_restrict (restricted : Restricted session db.toTables)
    (hshows : ∀ ticket, shows db.toTables ticket =
      (isOwn session ticket || (isListed session ticket && db.isActionedBy session ticket)))
    (ticketNumber : Option (Option ℤ)) :
    (db.restrict shows).search site session ticketNumber =
      db.search site session ticketNumber := by
  obtain ⟨membership, hmembership, hlevel⟩ := restricted.level
  cases ticketNumber with
  | none => rfl
  | some parsed =>
    cases parsed with
    | none => rfl
    | some ticketNumber =>
      have hfound : ((db.restrict shows).objects session).find? (fun ticket =>
          (ticket.number : ℤ) == ticketNumber) = ((db.objects session).find? fun ticket =>
            (ticket.number : ℤ) == ticketNumber).filter (shows db.toTables) := by
        have hobjects : (db.restrict shows).objects session =
            (db.objects session).filter (shows db.toTables) := List.filter_comm _ _ _
        rw [hobjects]
        apply Support.find?_filter_of_unique
        intro first hfirst second hsecond hnumber hnumber'
        rw [beq_iff_eq] at hnumber hnumber'
        exact number_unique db hfirst hsecond (Int.ofNat.inj (hnumber.trans hnumber'.symm))
      unfold Db.search
      dsimp only
      rw [hfound]
      cases hticket : (db.objects session).find? fun ticket =>
          (ticket.number : ℤ) == ticketNumber with
      | none => rfl
      | some ticket =>
        have hlisted := (List.mem_filter.mp (List.mem_of_find?_eq_some hticket)).2
        cases hshown : shows db.toTables ticket with
        | true =>
          rw [Option.filter_some, if_pos hshown]
          rfl
        | false =>
          -- A hidden ticket is answered like one that is not there.
          obtain ⟨hassignee, hactioned⟩ :=
            hidden_of_listed hlisted ((hshows ticket) ▸ hshown)
          rw [Option.filter_some, if_neg (by rw [hshown]; exact Bool.false_ne_true)]
          dsimp only
          rw [hmembership, hassignee, hactioned]
          simp [hlevel]

theorem bulkAction_restrict (restricted : db.isRestricted session = true)
    (hown : ∀ ticket, isOwn session ticket = true → shows db.toTables ticket = true)
    (includeDeleted : Bool) (action : String) (ticketIds : List ℕ) (params : BulkParams) :
    ((db.restrict shows).bulkAction session includeDeleted action ticketIds params :
      Answer Json) = db.bulkAction session includeDeleted action ticketIds params := by
  unfold Db.bulkAction
  rw [getQueryset_restrict restricted hown]
  rfl

variable (site) in
theorem context_restrict (restricted : db.isRestricted session = true)
    (hown : ∀ ticket, isOwn session ticket = true → shows db.toTables ticket = true)
    (keeps : Contact → Bool) {contact : ℕ} (excludeTicket : Option ℕ)
    (hasked : ∀ ticket, isListed session ticket = true →
      (ticket.contact == some contact) = true → shows db.toTables ticket = true) :
    (db.restrict shows).context site session keeps contact excludeTicket =
      db.context site session keeps contact excludeTicket := by
  unfold Db.context
  rw [contactQueryset_restrict restricted hown]
  cases hrow : ((db.contactQueryset session).filter keeps).find? fun row => row.id == contact with
  | none => rfl
  | some row =>
    have hid := List.find?_some hrow
    rw [beq_iff_eq] at hid
    subst hid
    dsimp only
    unfold Db.buildContactContext
    rw [objects_restrict hasked]
    rfl

theorem render_restrict (response : ℕ) {ticket : Option ℕ}
    (hasked : ∀ row, isListed session row = true → (some row.id == ticket) = true →
      shows db.toTables row = true) :
    ((db.restrict shows).render session response ticket : Answer Json) =
      db.render session response ticket := by
  cases ticket with
  | none => rfl
  | some id =>
    have hfound := Support.find?_congr_filter (objects_restrict hasked)
    have hid : (fun row : Ticket => some row.id == some id) = fun row => row.id == id := by
      funext row
      rw [Option.some_beq_some]
    rw [hid] at hfound
    unfold Db.render
    dsimp only
    rw [hfound]
    rfl

/-- An answer is that of the tables in which there are no tickets but those it concerns. -/
theorem respond_restrict (restricted : Restricted session db.toTables) (request : Request) :
    (db.restrict (request.concerns site session)).respond site session request =
      db.respond site session request := by
  have hrestricted := restricted.isRestricted
  have hown : ∀ ticket, isOwn session ticket = true →
      request.concerns site session db.toTables ticket = true := by
    intro ticket hticket
    unfold Request.concerns Request.mayShow
    split <;> simp [hticket]
  have hasked : ∀ ticket, request.asksFor site session ticket = true →
      request.concerns site session db.toTables ticket = true := by
    intro ticket hticket
    rw [Request.concerns, hticket, Bool.or_true]
  have hguarded : ∀ (allowed : Bool) {first second : Answer Json}, first = second →
      Db.guarded allowed first = Db.guarded allowed second := by
    rintro allowed first _ rfl
    rfl
  cases request with
  | list query page =>
    refine hguarded _ ?_
    unfold Db.list
    rw [filterQueryset_restrict hrestricted hown]
    rfl
  | retrieve query id =>
    refine hguarded _ ?_
    unfold Db.retrieve
    rw [filterQueryset_restrict hrestricted hown]
    rfl
  | lookup number q =>
    refine hguarded _ (lookup_restrict fun ticket hlisted hwanted => hasked ticket ?_)
    rw [Request.asksFor, hlisted, hwanted]
    rfl
  | search ticketNumber =>
    exact hguarded _ (search_restrict restricted (fun ticket => Bool.or_false _) ticketNumber)
  | bulkAction includeDeleted action ticketIds params =>
    exact hguarded _ (bulkAction_restrict hrestricted hown includeDeleted action ticketIds params)
  | context keeps contact excludeTicket =>
    refine hguarded _ (context_restrict site hrestricted hown keeps excludeTicket
      fun ticket hlisted hcontact => hasked ticket ?_)
    rw [Request.asksFor, hlisted, hcontact]
    rfl
  | render response ticket =>
    refine hguarded _ (render_restrict response fun row hlisted hid => hasked row ?_)
    rw [Request.asksFor, hlisted, hid]
    rfl

end Restrict

/-- The answers to a member are the same in all tables that differ in other tickets only than
those that he may see or asks for. -/
theorem respond_eq_of_alike {Json : Type*} (site : Site Json) {session : Session}
    (request : Request) {first second : Db} (restricted : Restricted session first.toTables)
    (alike : (otherTickets (request.concerns site session)).Alike first second) :
    first.respond site session request = second.respond site session request := by
  have hsame : first.restrict (request.concerns site session) =
      second.restrict (request.concerns site session) := alike
  have htables := congrArg (fun db : Db => db.toTables) hsame
  change first.toTables = second.toTables at htables
  have hsecond := @respond_restrict _ site session second (htables ▸ restricted) request
  rw [← respond_restrict restricted request, ← hsecond, hsame]

/-! ## An agent -/

/-- A site that writes of a ticket what one sees of it in a list. -/
def plain : Site (ℕ × String) where
  icontains text part := text == part
  isoformat := toString
  round average := average
  ticketList _ _ ticket := (ticket.number, ticket.subject)
  ticketDetail _ _ ticket := (ticket.number, ticket.subject)
  linkedEmail _ email := (email.id, "")

def agentRole : Accounts.Role where
  id := 3
  tenant := 1
  slug := "agent"
  hierarchyLevel := 30

def agentSession : Session where
  user := "agent"
  tenant := 1
  now := 0

/-- The tables of a desk with one agent. -/
def deskTables (superusers : List String) : Tables where
  catalogue := { memberships := [{ user := "agent", tenant := 1, role := agentRole }] }
  superusers
  contacts := [{ id := 7, tenant := 1, firstName := "Ada", lastName := "" }]
  cannedResponses := [{ id := 4, tenant := 1, content := "", createdBy := "agent" }]

/-- The agent has a ticket of a contact. -/
def ownDesk (superusers : List String) : Db where
  toTables := deskTables superusers
  tickets :=
    [{ id := 1, tenant := 1, number := 1, subject := "printer", status := 0, createdAt := 10,
       contact := some 7, assignee := some "agent" }]

/-- The contact has another ticket, which is somebody else's. -/
def sharedDesk (superusers : List String) : Db where
  toTables := deskTables superusers
  tickets :=
    [{ id := 1, tenant := 1, number := 1, subject := "printer", status := 0, createdAt := 10,
       contact := some 7, assignee := some "agent" },
     { id := 2, tenant := 1, number := 2, subject := "salary", status := 0, createdAt := 20,
       contact := some 7, assignee := some "manager", createdBy := some "manager" }]

theorem restricted_deskTables : Restricted agentSession (deskTables []) where
  level := ⟨{ user := "agent", tenant := 1, role := agentRole }, rfl, by decide⟩
  isSuperuser := rfl

theorem alike_sharedDesk (superusers : List String) (request : Request) :
    (otherTickets (request.mayShow agentSession)).Alike (ownDesk superusers)
      (sharedDesk superusers) := by
  cases request <;> rfl

/-- The list of the agent is the same without the other ticket. -/
theorem list_ownDesk :
    (ownDesk []).respond plain agentSession (.list {} (.number 1)) =
      (sharedDesk []).respond plain agentSession (.list {} (.number 1)) :=
  respond_eq_of_alike plain (.list {} (.number 1)) restricted_deskTables rfl

/-- The ticket of somebody else is found by its number, counted for its contact and rendered,
and a superuser among the agents has it in his list. -/
theorem respond_ne_sharedDesk :
    Restricted agentSession (deskTables []) ∧
    (∀ (superusers : List String) (request : Request),
      (otherTickets (request.mayShow agentSession)).Alike (ownDesk superusers)
        (sharedDesk superusers)) ∧
    (ownDesk []).respond plain agentSession (.lookup (some 2) "") ≠
      (sharedDesk []).respond plain agentSession (.lookup (some 2) "") ∧
    (ownDesk []).respond plain agentSession (.context (fun _ => true) 7 none) ≠
      (sharedDesk []).respond plain agentSession (.context (fun _ => true) 7 none) ∧
    (ownDesk []).respond plain agentSession (.render 4 (some 2)) ≠
      (sharedDesk []).respond plain agentSession (.render 4 (some 2)) ∧
    (ownDesk ["agent"]).respond plain agentSession (.list {} (.number 1)) ≠
      (sharedDesk ["agent"]).respond plain agentSession (.list {} (.number 1)) :=
  ⟨restricted_deskTables, alike_sharedDesk, by decide +kernel, by decide +kernel,
    by decide +kernel, by decide +kernel⟩

end Kanzan.Access

import Kanzan.Analytics.Outputs
import Kanzan.Support.Erasure

/-!
# Soft-deleted tickets

What a member can ask for, and when the tickets that are soft-deleted have no influence on the
answer.
-/

namespace Kanzan.Analytics

open Attachments (Session)
open Support

/-! ## Erasing the deleted tickets -/

namespace Db

variable (db : Db)

def live : Db :=
  { db with
    tickets := db.tickets.filter fun ticket => !ticket.isDeleted
    tickets_id := db.tickets_id.sublist ((List.filter_sublist).map _) }

def NoneDeleted (kind : Ticket → Bool) : Prop :=
  ∀ ticket ∈ db.tickets, ticket.isDeleted = true → kind ticket = false

/-- Each soft-deleted ticket of a kind has one of that kind beside it that is not deleted. -/
def Shadowed (kind : Ticket → Bool) : Prop :=
  ∀ ticket ∈ db.tickets, ticket.isDeleted = true → kind ticket = true →
    ∃ other ∈ db.tickets, other.isDeleted = false ∧ kind other = true

end Db

def deletedTickets : Erasure Db where
  erase := Db.live
  erase_erase db := by
    have hlive : (db.tickets.filter fun ticket => !ticket.isDeleted).filter
        (fun ticket => !ticket.isDeleted) = db.tickets.filter fun ticket => !ticket.isDeleted := by
      rw [List.filter_filter]
      simp only [Bool.and_self]
    simp only [Db.live, hlive]

/-! ## Queries -/

/-- What is computed for a member: an export, a ticket count, the lead scores, or a list. -/
inductive Query where
  | ticketExport (isoformat : ℕ → String) (tenant : ℕ) (filters : ExportFilters)
  | ticketCount (agent : AgentAvailability)
  | leadScores (now : ℕ)
  | contacts (session : Session)
  | comments (session : Session)

inductive Answer where
  | rows (rows : List ExportRow) (headers : List String)
  | agent (agent : AgentAvailability)
  | contacts (contacts : List Contact)
  | comments (comments : List Comments.Comment)

namespace Db

variable (db : Db)

def answer : Query → Answer
  | .ticketExport isoformat tenant filters =>
    .rows (db.fetchTicketData isoformat tenant filters).1
      (db.fetchTicketData isoformat tenant filters).2
  | .ticketCount agent => .agent (db.updateTicketCount agent)
  | .leadScores now => .contacts (db.calculateLeadScores now)
  | .contacts session => .contacts (db.contactQueryset session)
  | .comments session => .comments (db.commentQueryset session)

/--
When the deleted tickets have no influence on an answer: none is exported or counted, none gives a
contact a signal or a user a contact that no other ticket gives, and no public comment is about one
of the user's own.
-/
def Unaffected : Query → Prop
  | .ticketExport _ tenant filters => db.NoneDeleted (db.exported tenant filters)
  | .ticketCount agent => db.NoneDeleted (db.counted agent)
  | .leadScores now => ∀ contact ∈ db.contacts, contact.tenant ∈ db.activeTenants →
      db.Shadowed (db.isOpenDeal contact) ∧ db.Shadowed (Ticket.isBadCsat now contact)
  | .contacts session => db.contactsRestricted session = true →
      ∀ contact ∈ db.contacts, contact.tenant = session.tenant →
        db.Shadowed fun ticket => ticket.isOwn session && ticket.contact == some contact.id
  | .comments session => db.commentTables.isRestricted session = true →
      ∀ comment ∈ db.comments, comment.tenant = session.tenant → comment.contentType = .ticket →
        comment.isInternal = false →
          db.NoneDeleted fun ticket => ticket.isOwn session && ticket.id == comment.objectId

end Db

/-! ## Laws -/

section Laws

variable {db : Db} {kind : Ticket → Bool}

theorem noneDeleted_iff :
    db.NoneDeleted kind ↔
      ∀ ticket ∈ db.tickets, (!ticket.isDeleted) = false → kind ticket = false := by
  simp only [Db.NoneDeleted, Bool.not_eq_false']

theorem length_live_iff :
    (db.tickets.filter kind).length = (db.live.tickets.filter kind).length ↔
      db.NoneDeleted kind := by
  rw [noneDeleted_iff]
  exact length_filter_filter_iff

theorem filter_live (hnone : db.NoneDeleted kind) :
    db.live.tickets.filter kind = db.tickets.filter kind :=
  filter_filter_of_none (noneDeleted_iff.mp hnone)

theorem any_live_iff :
    db.tickets.any kind = db.live.tickets.any kind ↔ db.Shadowed kind := by
  rw [Db.live, any_filter_iff]
  simp only [Db.Shadowed, Bool.not_eq_false', Bool.not_eq_true']

theorem shadowed_id_iff {id : ℕ} :
    db.Shadowed (fun ticket => kind ticket && ticket.id == id) ↔
      db.NoneDeleted fun ticket => kind ticket && ticket.id == id := by
  constructor
  · intro shadowed ticket hmem hdeleted
    rw [Bool.eq_false_iff]
    intro hkind
    obtain ⟨other, hother, hlive, hkind'⟩ := shadowed ticket hmem hdeleted hkind
    simp only [Bool.and_eq_true, beq_iff_eq] at hkind hkind'
    have heq : ticket = other :=
      List.inj_on_of_nodup_map db.tickets_id hmem hother (hkind.2.trans hkind'.2.symm)
    rw [← heq, hdeleted] at hlive
    cases hlive
  · intro hnone ticket hmem hdeleted hkind
    rw [hnone ticket hmem hdeleted] at hkind
    cases hkind

theorem fetchTicketData_live_iff (isoformat : ℕ → String) (tenant : ℕ) (filters : ExportFilters) :
    db.fetchTicketData isoformat tenant filters = db.live.fetchTicketData isoformat tenant filters ↔
      db.NoneDeleted (db.exported tenant filters) := by
  constructor
  · intro heq
    have hlength := congrArg (fun data => data.1.length) heq
    simp only [Db.fetchTicketData, List.length_map, List.length_insertionSort] at hlength
    exact length_live_iff.mp hlength
  · intro hnone
    have hfilter := filter_live hnone
    rw [Db.fetchTicketData, ← hfilter]
    rfl

theorem updateTicketCount_currentTicketCount (agent : AgentAvailability) :
    (db.updateTicketCount agent).currentTicketCount =
      (db.tickets.filter (db.counted agent)).length := by
  rw [Db.updateTicketCount]
  split
  · rfl
  · rename_i heq
    exact not_not.mp heq

theorem updateTicketCount_live_iff (agent : AgentAvailability) :
    db.updateTicketCount agent = db.live.updateTicketCount agent ↔
      db.NoneDeleted (db.counted agent) := by
  constructor
  · intro heq
    have hcount := congrArg AgentAvailability.currentTicketCount heq
    rw [updateTicketCount_currentTicketCount, updateTicketCount_currentTicketCount] at hcount
    exact length_live_iff.mp hcount
  · intro hnone
    rw [Db.updateTicketCount, ← filter_live hnone]
    rfl

theorem leadScore_inj {recentEvent completedActivity inactive : Bool} {deal deal' bad bad' : Bool} :
    leadScore recentEvent completedActivity deal inactive bad =
        leadScore recentEvent completedActivity deal' inactive bad' ↔
      deal = deal' ∧ bad = bad' := by
  revert recentEvent completedActivity inactive deal deal' bad bad'
  decide

theorem scored_live_iff (now : ℕ) (contact : Contact) :
    db.scored now contact = db.live.scored now contact ↔
      db.Shadowed (db.isOpenDeal contact) ∧ db.Shadowed (Ticket.isBadCsat now contact) := by
  rw [← any_live_iff, ← any_live_iff]
  constructor
  · intro heq
    exact leadScore_inj.mp (congrArg Contact.leadScore heq)
  · rintro ⟨hdeal, hbad⟩
    rw [Db.scored, hdeal, hbad]
    rfl

theorem calculateLeadScores_live_iff (now : ℕ) :
    db.calculateLeadScores now = db.live.calculateLeadScores now ↔
      ∀ contact ∈ db.contacts, contact.tenant ∈ db.activeTenants →
        db.Shadowed (db.isOpenDeal contact) ∧ db.Shadowed (Ticket.isBadCsat now contact) := by
  have hcontact : ∀ contact, ((if db.activeTenants.contains contact.tenant then
      db.scored now contact else contact) = if db.activeTenants.contains contact.tenant then
      db.live.scored now contact else contact) ↔ (contact.tenant ∈ db.activeTenants →
        db.Shadowed (db.isOpenDeal contact) ∧ db.Shadowed (Ticket.isBadCsat now contact)) := by
    intro contact
    by_cases hactive : contact.tenant ∈ db.activeTenants
    · simp only [List.contains_iff_mem, hactive, if_true, forall_const]
      exact scored_live_iff now contact
    · simp only [List.contains_iff_mem, hactive, if_false, false_imp_iff]
  refine Iff.trans List.map_inj_left ?_
  exact forall₂_congr fun contact _ => hcontact contact

theorem contains_ownContacts (session : Session) (contact : Contact) :
    ((db.tickets.filter (Ticket.isOwn session)).filterMap Ticket.contact).contains contact.id =
      db.tickets.any fun ticket => ticket.isOwn session && ticket.contact == some contact.id := by
  rw [Bool.eq_iff_iff, List.contains_iff_mem, List.any_eq_true]
  simp only [List.mem_filterMap, List.mem_filter, Bool.and_eq_true, beq_iff_eq, and_assoc]

theorem contactQueryset_live_iff (session : Session) :
    db.contactQueryset session = db.live.contactQueryset session ↔
      (db.contactsRestricted session = true →
        ∀ contact ∈ db.contacts, contact.tenant = session.tenant →
          db.Shadowed fun ticket => ticket.isOwn session && ticket.contact == some contact.id) := by
  have hlive : db.live.contactsRestricted session = db.contactsRestricted session := rfl
  rw [Db.contactQueryset, Db.contactQueryset, hlive]
  cases hrestricted : db.contactsRestricted session with
  | false => exact iff_of_true rfl fun h => by cases h
  | true =>
    simp only [if_true, contains_ownContacts, forall_const]
    refine filter_inj_iff.trans ?_
    simp only [List.mem_filter, beq_iff_eq, and_imp, any_live_iff]

theorem contains_ownTicketIds (session : Session) (id : ℕ) :
    (db.commentTables.ownTicketIds session).contains id =
      db.tickets.any fun ticket => ticket.isOwn session && ticket.id == id := by
  rw [Bool.eq_iff_iff, List.contains_iff_mem, List.any_eq_true]
  simp only [Comments.Db.ownTicketIds, Db.commentTables, List.mem_map, List.mem_filter,
    Ticket.isOwn, Bool.and_eq_true, beq_iff_eq]
  constructor
  · rintro ⟨_, ⟨⟨ticket, hmem, rfl⟩, hown⟩, hid⟩
    exact ⟨ticket, hmem, hown, hid⟩
  · rintro ⟨ticket, hmem, hown, hid⟩
    exact ⟨ticket.toTicket, ⟨⟨ticket, hmem, rfl⟩, hown⟩, hid⟩

theorem ownAndPublic_live_iff (session : Session) (comment : Comments.Comment) :
    db.commentTables.ownAndPublic session comment =
        db.live.commentTables.ownAndPublic session comment ↔
      (comment.contentType = .ticket → comment.isInternal = false →
        db.NoneDeleted fun ticket => ticket.isOwn session && ticket.id == comment.objectId) := by
  rw [← shadowed_id_iff, ← any_live_iff, Comments.Db.ownAndPublic, Comments.Db.ownAndPublic,
    contains_ownTicketIds, contains_ownTicketIds]
  by_cases htype : comment.contentType = .ticket
  · cases comment.isInternal <;> simp [htype]
  · have hother : (comment.contentType == .ticket) = false := beq_eq_false_iff_ne.mpr htype
    simp [hother, htype]

theorem commentQueryset_live_iff (session : Session) :
    db.commentQueryset session = db.live.commentQueryset session ↔
      (db.commentTables.isRestricted session = true →
        ∀ comment ∈ db.comments, comment.tenant = session.tenant → comment.contentType = .ticket →
          comment.isInternal = false →
            db.NoneDeleted fun ticket =>
              ticket.isOwn session && ticket.id == comment.objectId) := by
  have hlive : db.live.commentTables.isRestricted session =
      db.commentTables.isRestricted session := rfl
  rw [Db.commentQueryset, Db.commentQueryset, Comments.Db.commentQueryset,
    Comments.Db.commentQueryset, hlive]
  cases hrestricted : db.commentTables.isRestricted session with
  | false => exact iff_of_true rfl fun h => by cases h
  | true =>
    simp only [if_true, forall_const]
    refine filter_inj_iff.trans ?_
    simp only [Comments.Db.tenantComments, List.mem_filter, beq_iff_eq, and_imp,
      ownAndPublic_live_iff]
    rfl

theorem answer_live_iff (query : Query) :
    db.answer query = db.live.answer query ↔ db.Unaffected query := by
  cases query with
  | ticketExport isoformat tenant filters =>
    rw [Db.answer, Db.answer, Answer.rows.injEq, ← Prod.ext_iff]
    exact fetchTicketData_live_iff isoformat tenant filters
  | ticketCount agent =>
    rw [Db.answer, Db.answer, Answer.agent.injEq]
    exact updateTicketCount_live_iff agent
  | leadScores now =>
    rw [Db.answer, Db.answer, Answer.contacts.injEq]
    exact calculateLeadScores_live_iff now
  | contacts session =>
    rw [Db.answer, Db.answer, Answer.contacts.injEq]
    exact contactQueryset_live_iff session
  | comments session =>
    rw [Db.answer, Db.answer, Answer.comments.injEq]
    exact commentQueryset_live_iff session

end Laws

/--
An answer is the one from every database that differs only in soft-deleted tickets, none of which
has influence there, exactly if none has influence here.
-/
theorem answers_alike_iff (query : Query) (db : Db) :
    deletedTickets.Respects (fun other => other.Unaffected query) (fun other => other.answer query)
      db ↔ db.Unaffected query :=
  Erasure.respects_iff (fun _ => answer_live_iff query) db

/-- A deal, rated by its contact and remarked on, that was deleted while an agent had it. -/
def deletedDeal : Ticket where
  id := 5
  tenant := 1
  assignee := some "agent"
  isDeleted := true
  number := 1
  subject := "Renewal"
  status := 0
  contact := some 8
  createdAt := 0
  ticketType := .deal
  csatRating := some 1
  csatSubmittedAt := some 0

/-- The deleted deal is the only ticket of its tenant. -/
def trash : Db where
  tickets := [deletedDeal]
  statuses := [{ id := 0, tenant := 1, slug := "open", name := "Open" }]
  users := [{ id := "agent", firstName := "Ann", lastName := "Agent" }]
  contacts := [{ id := 8, tenant := 1, firstName := "Cara", lastName := "Client" }]
  activeTenants := [1]
  memberships :=
    [{ user := "agent", tenant := 1
       role := { id := 3, tenant := 1, slug := "agent", hierarchyLevel := 30 } }]
  comments :=
    [{ id := 9, tenant := 1, contentType := .ticket, objectId := 5, author := "agent"
       body := "Done", createdAt := 0, updatedAt := 0 }]

/-- What the agent, or a task, asks for at time 0. -/
def agentQueries : List Query :=
  [.ticketExport toString 1 {}, .ticketCount { tenant := 1, user := "agent" }, .leadScores 0,
    .contacts { user := "agent", tenant := 1, now := 0 },
    .comments { user := "agent", tenant := 1, now := 0 }]

/-- Every answer to the agent changes when the deleted deal is removed. -/
theorem not_ignored_trash :
    deletedTickets.Alike trash trash.live ∧
      ∀ query ∈ agentQueries, trash.answer query ≠ trash.live.answer query := by
  refine ⟨Erasure.alike_erase trash, ?_⟩
  have hdeal : deletedDeal ∈ trash.tickets := List.mem_singleton_self _
  intro query hquery
  rw [Ne, answer_live_iff]
  intro unaffected
  simp only [agentQueries, List.mem_cons, List.not_mem_nil, or_false] at hquery
  rcases hquery with rfl | rfl | rfl | rfl | rfl
  · have hnone := unaffected deletedDeal hdeal rfl
    revert hnone
    decide +kernel
  · have hnone := unaffected deletedDeal hdeal rfl
    revert hnone
    decide +kernel
  · obtain ⟨other, hother, hlive, -⟩ := (unaffected _ (List.mem_singleton_self _)
      (List.mem_singleton_self _)).1 deletedDeal hdeal rfl (by decide +kernel)
    rw [List.mem_singleton.mp hother] at hlive
    cases hlive
  · obtain ⟨other, hother, hlive, -⟩ := unaffected (by decide +kernel) _
      (List.mem_singleton_self _) rfl deletedDeal hdeal rfl (by decide +kernel)
    rw [List.mem_singleton.mp hother] at hlive
    cases hlive
  · have hnone := unaffected (by decide +kernel) _ (List.mem_singleton_self _) rfl rfl rfl
      deletedDeal hdeal rfl
    revert hnone
    decide +kernel

end Kanzan.Analytics

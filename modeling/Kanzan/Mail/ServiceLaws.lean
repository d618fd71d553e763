import Mathlib.Data.List.Count
import Kanzan.Mail.Services

/-!
# What a run writes

Every outcome rewrites the row of its email, which is not open any more.  Only a run that has
claimed the key makes something, and it makes one thing at most.
-/

namespace Kanzan.Mail

/-- The statuses of an email that has become a ticket, a reply or a hub email. -/
def InboundEmail.isHandled (inbound : InboundEmail) : Bool :=
  inbound.status == .ticketCreated || inbound.status == .replyAdded || inbound.status == .parkedInHub

/-- A session has rewritten the row of its email, and has listed what it has made. -/
structure Rewrites (s s' : Session) : Prop where
  id : s'.id = s.id
  emails : s'.db.emails = s.db.emails.set s.id s'.inbound
  messageId : s'.inbound.messageId = s.inbound.messageId
  tickets : s'.db.tickets.length + s.created.count .ticket =
    s.db.tickets.length + s'.created.count .ticket
  comments : s'.db.comments.length + s.created.count .reply =
    s.db.comments.length + s'.created.count .reply
  hubEmails : s'.db.hubEmails.length + s.created.count .hubEmail =
    s.db.hubEmails.length + s'.created.count .hubEmail

section Laws

variable {site : Site} {tenant : Tenant} {s s' s'' : Session} {contact systemUser ticket : ℕ}

theorem Rewrites.trans (first : Rewrites s s') (second : Rewrites s' s'') : Rewrites s s'' where
  id := second.id.trans first.id
  emails := by rw [second.emails, first.emails, first.id, List.set_set]
  messageId := second.messageId.trans first.messageId
  tickets := by
    have h₁ := first.tickets
    have h₂ := second.tickets
    omega
  comments := by
    have h₁ := first.comments
    have h₂ := second.comments
    omega
  hubEmails := by
    have h₁ := first.hubEmails
    have h₂ := second.hubEmails
    omega

theorem save_rewrites {edit : InboundEmail → InboundEmail}
    (hkeeps : (edit s.inbound).messageId = s.inbound.messageId) : Rewrites s (s.save edit) where
  id := rfl
  emails := rfl
  messageId := hkeeps
  tickets := rfl
  comments := rfl
  hubEmails := rfl

theorem reject_rewrites (reason : String) : Rewrites s (reject reason s) := save_rewrites rfl

theorem handleBounce_rewrites (reason : String) : Rewrites s (handleBounce site reason s) := by
  unfold handleBounce
  exact save_rewrites rfl

theorem findOrCreateContact_rows (tenant : Tenant) (senderEmail senderName : String) (db : Db) :
    (findOrCreateContact tenant senderEmail senderName db).1.emails = db.emails ∧
      (findOrCreateContact tenant senderEmail senderName db).1.tickets = db.tickets ∧
        (findOrCreateContact tenant senderEmail senderName db).1.comments = db.comments ∧
          (findOrCreateContact tenant senderEmail senderName db).1.hubEmails = db.hubEmails := by
  unfold findOrCreateContact
  split <;> exact ⟨rfl, rfl, rfl, rfl⟩

/-- What is handled has been claimed, and is one thing. -/
structure Handles (s s' : Session) : Prop extends Rewrites s s' where
  tenant : s'.inbound.tenant = s.inbound.tenant
  idempotencyKey : s'.inbound.idempotencyKey = s.inbound.idempotencyKey
  isOpen : s'.inbound.isOpen = false
  created : s'.created.length ≤ s.created.length + 1

theorem createTicketFromEmail_handles
    (success : createTicketFromEmail site tenant contact systemUser s = .ok s') : Handles s s' := by
  unfold createTicketFromEmail at success
  split at success
  · cases success
  · rw [← Except.ok.inj success]
    constructor
    · constructor
      all_goals simp [Session.save]
      all_goals omega
    · rfl
    · rfl
    · rfl
    · simp [Session.save]

theorem addReplyToTicket_handles : Handles s (addReplyToTicket site ticket systemUser s) := by
  unfold addReplyToTicket
  dsimp only
  split
  · exact { reject_rewrites _ with
      tenant := rfl, idempotencyKey := rfl, isOpen := rfl, created := Nat.le_succ _ }
  · constructor
    · constructor
      all_goals simp [Session.save]
      all_goals omega
    · rfl
    · rfl
    · rfl
    · simp [Session.save]

theorem parkEmailInHub_handles : Handles s (parkEmailInHub tenant contact s) := by
  unfold parkEmailInHub
  dsimp only
  split
  · constructor
    · exact save_rewrites rfl
    · rfl
    · rfl
    · rfl
    · exact Nat.le_succ _
  · constructor
    · constructor
      all_goals simp [Session.save]
      all_goals omega
    · rfl
    · rfl
    · rfl
    · simp [Session.save]

theorem handleClaimed_handles (success : handleClaimed site tenant s = .ok s') : Handles s s' := by
  unfold handleClaimed at success
  split at success
  · cases success
  rename_i systemUser _
  obtain ⟨hemails, htickets, hcomments, hhubEmails⟩ :=
    findOrCreateContact_rows tenant s.inbound.senderEmail s.inbound.senderName s.db
  generalize findOrCreateContact tenant s.inbound.senderEmail s.inbound.senderName s.db = found
    at success hemails htickets hcomments hhubEmails
  obtain ⟨db, contact⟩ := found
  dsimp only at success hemails htickets hcomments hhubEmails
  have hsame : ∀ {s'}, Handles { s with db } s' → Handles s s' := by
    intro s' handles
    exact { handles with
      emails := hemails ▸ handles.emails
      tickets := htickets ▸ handles.tickets
      comments := hcomments ▸ handles.comments
      hubEmails := hhubEmails ▸ handles.hubEmails }
  refine hsame ?_
  split at success
  · rw [← Except.ok.inj success]
    exact addReplyToTicket_handles
  · split at success
    · rw [← Except.ok.inj success]
      exact parkEmailInHub_handles
    · exact createTicketFromEmail_handles success

def Unclaimed (key : String) (id : ℕ) (db : Db) : Prop :=
  ∀ (other : ℕ) (email : InboundEmail), db.emails[other]? = some email →
    email.idempotencyKey = some key → other = id

theorem unclaimed_iff {key : String} {id : ℕ} {db : Db} :
    Unclaimed key id db ↔ isClaimed key id db = false := by
  unfold Unclaimed isClaimed
  rw [List.any_eq_false]
  constructor
  · intro unclaimed row hmem hclaims
    rw [Bool.and_eq_true, beq_iff_eq, decide_eq_true_eq] at hclaims
    exact hclaims.2 (unclaimed row.2 row.1 (List.mem_zipIdx_iff_getElem?.mp hmem) hclaims.1)
  · intro hnone other email hrow hkey
    by_contra hne
    refine hnone (email, other) (List.mem_zipIdx_iff_getElem?.mpr hrow) ?_
    rw [Bool.and_eq_true, beq_iff_eq, decide_eq_true_eq]
    exact ⟨hkey, hne⟩

theorem unclaimed_save (key : String) (edit : InboundEmail → InboundEmail) :
    Unclaimed key s.id (s.save edit).db ↔ Unclaimed key s.id s.db := by
  have hothers : ∀ other, other ≠ s.id → (s.save edit).db.emails[other]? = s.db.emails[other]? :=
    fun other hother => List.getElem?_set_ne (Ne.symm hother)
  constructor
  · intro unclaimed other email hrow hkey
    by_contra hother
    exact hother (unclaimed other email ((hothers other hother).trans hrow) hkey)
  · intro unclaimed other email hrow hkey
    by_contra hother
    exact hother (unclaimed other email ((hothers other hother).symm.trans hrow) hkey)

/-- A run is turned away, or it claims the key of the tenant for its email. -/
theorem processUnguarded_cases {duplicate : Bool}
    (success : processUnguarded site duplicate s = .ok s') :
    Rewrites s s' ∧ s'.inbound.isOpen = false ∧
      (s'.inbound.idempotencyKey = s.inbound.idempotencyKey ∧ s'.inbound.isHandled = false ∧
          s'.created = s.created ∨
        ∃ tenant, s'.inbound.tenant = some tenant ∧
          s'.inbound.idempotencyKey = some (idemKey tenant s'.inbound.messageId) ∧
            Unclaimed (idemKey tenant s'.inbound.messageId) s.id s.db ∧
              s'.created.length ≤ s.created.length + 1) := by
  unfold processUnguarded at success
  split at success
  · rw [← Except.ok.inj success]
    split
    · exact ⟨handleBounce_rewrites _, rfl, .inl ⟨rfl, rfl, rfl⟩⟩
    · exact ⟨reject_rewrites _, rfl, .inl ⟨rfl, rfl, rfl⟩⟩
  split at success
  · rw [← Except.ok.inj success]
    exact ⟨reject_rewrites _, rfl, .inl ⟨rfl, rfl, rfl⟩⟩
  rename_i tenant _
  dsimp only at success
  have hnamed : Rewrites s (s.save fun inbound => { inbound with tenant := some tenant }) :=
    save_rewrites rfl
  split at success
  · rw [← Except.ok.inj success]
    exact ⟨hnamed.trans (reject_rewrites _), rfl, .inl ⟨rfl, rfl, rfl⟩⟩
  split at success
  · cases success
  rename_i hfree
  rw [Bool.not_eq_true] at hfree
  have handles := handleClaimed_handles success
  have hrewrites := (hnamed.trans (save_rewrites rfl)).trans handles.toRewrites
  refine ⟨hrewrites, handles.isOpen, .inr ⟨tenant, handles.tenant, ?_, ?_, handles.created⟩⟩
  · rw [handles.idempotencyKey, handles.messageId]
    rfl
  · rw [hrewrites.messageId]
    exact (unclaimed_save _ _).mp (unclaimed_iff.mpr hfree)

end Laws

end Kanzan.Mail

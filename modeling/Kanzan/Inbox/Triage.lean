import Kanzan.Inbox.ServiceLaws
import Kanzan.Mail.Rows

/-!
# The inbox of the agents

Emails are linked to tickets, actioned and ignored by agents, while the hub hands them to agents.
The hub email of an email has the key of the email.
-/

namespace Kanzan.Inbox

open Support Tickets
open Mail (InboundEmail InboxStatus InboxAction)

/-- The hub of a tenant, with the numbers of its tickets and the users of the site. -/
structure Office where
  hub : Hub
  number : ℕ → ℕ
  number_pos : ∀ ticket, 0 < number ticket
  isUser : ℕ → Bool

/-! ## Emails -/

/-- `InboundEmail.save`: what is stamped once stays. -/
def saveInbound (old inbound : InboundEmail) : Except String InboundEmail :=
  if old.actionedAt.isSome ∧ inbound.actionedAt ≠ old.actionedAt then
    .error "actioned_at is immutable once set."
  else if old.actionedBy.isSome ∧ inbound.actionedBy ≠ old.actionedBy then
    .error "actioned_by is immutable once set."
  else if old.linkedAt.isSome ∧ inbound.linkedAt ≠ old.linkedAt then
    .error "linked_at is immutable once set."
  else if old.linkedBy.isSome ∧ inbound.linkedBy ≠ old.linkedBy then
    .error "linked_by is immutable once set."
  else .ok inbound

def isShown (db : Db) (ticket : ℕ) : Bool :=
  ticket ∈ db.ticketIds && (db.tickets ticket).any fun row => !row.isDeleted

/-- `Ticket.objects.filter(tenant=tenant, number=ticket_number).first()`. -/
def ticketNumbered (office : Office) (ticketNumber : ℤ) (db : Db) : Option ℕ :=
  db.ticketIds.find? fun ticket => isShown db ticket && (office.number ticket : ℤ) == ticketNumber

/-- `link_email_to_ticket`. -/
def linkEmailToTicket (office : Office) (ticketNumber : ℤ) (linkedBy now : ℕ) (db : Db)
    (inbound : InboundEmail) : Except String InboundEmail :=
  if ticketNumber ≤ 0 then .error "ticket_number must be a positive integer."
  else if inbound.tenant = none then .error "Email has no tenant — cannot link."
  else match ticketNumbered office ticketNumber db with
  | none => .error s!"Ticket #{ticketNumber} not found in your workspace"
  | some ticket =>
    saveInbound inbound
      { inbound with
        linkedTicket := some ticket, linkedAt := some now, linkedBy := some linkedBy
        inboxStatus := .linked }

def inboxAction : String → Option InboxAction
  | "open" => some .openTicket
  | "assign" => some .assign
  | "close" => some .close
  | _ => none

/-- What `action_email` does to the ticket. -/
def actOnTicket (office : Office) (req : Request) (action : InboxAction) (assigneeId : Option ℕ)
    (s : Session) : Except String Session :=
  let ws := office.hub.workspace
  match action with
  | .openTicket =>
    match ws.statusBySlug "open" with
    | none => .ok s
    | some openStatus =>
      if s.ticket.status.pk = openStatus.pk then .ok s
      else transitionTicketStatus ws req openStatus s
  | .assign =>
    match assigneeId with
    | none => .error "assignee is required for 'assign' action."
    | some assignee =>
      if office.isUser assignee then assignTicket ws req assignee "" s
      else .error "Assignee not found."
  | .close => closeTicket ws req s

/-- `action_email`. -/
def actionEmail (office : Office) (req : Request) (action : String) (actionedBy now : ℕ)
    (assigneeId : Option ℕ) (db : Db) (inbound : InboundEmail) :
    Except String (Db × InboundEmail) :=
  if inbound.inboxStatus = .actioned then .error "This email has already been actioned"
  else if inbound.inboxStatus ≠ .linked then
    .error "Email must be linked to a ticket before taking action"
  else match inbound.linkedTicket, inboxAction action with
  | none, _ => .error "Email must be linked to a ticket before taking action"
  | some _, none => .error s!"Invalid action: {action}"
  | some ticket, some taken =>
    if !isShown db ticket then .error "Ticket matching query does not exist."
    else
      (db.onTicket ticket (actOnTicket office req taken assigneeId)).bind fun db =>
        (saveInbound inbound
          { inbound with
            inboxStatus := .actioned, actionedAt := some now, actionedBy := some actionedBy
            actionTaken := some taken }).map (Prod.mk db)

/-- `ignore_email`. -/
def ignoreEmail (inbound : InboundEmail) : Except String InboundEmail :=
  if inbound.inboxStatus = .actioned then .error "This email has already been actioned"
  else if inbound.inboxStatus = .ignored then .error "This email has already been ignored"
  else saveInbound inbound { inbound with inboxStatus := .ignored }

/-- What `assign_to` and `reassign_hub_email` write into the email that they hand to an agent. -/
def handOver (user : ℕ) (inbound : InboundEmail) : InboundEmail :=
  { inbound with assignee := some user, inboxStatus := .pending, isRead := false }

/-! ## The inbox -/

structure Triage where
  hub : HubDb := {}
  inbounds : ℕ → Option InboundEmail := fun _ => none

def Triage.put (triage : Triage) (id : ℕ) (inbound : InboundEmail) : Triage :=
  { triage with
    inbounds := fun other => if other = id then some inbound else triage.inbounds other }

def Triage.handOver (triage : Triage) (row : HubEmailAssignment) : Triage :=
  match triage.inbounds row.hubEmail with
  | none => triage
  | some inbound => triage.put row.hubEmail (Inbox.handOver row.assignedTo inbound)

def arrived (inbound : InboundEmail) : InboundEmail :=
  { inbound with
    inboxStatus := .pending, linkedTicket := none, linkedAt := none, linkedBy := none
    assignee := none, isRead := false, actionedAt := none, actionedBy := none, actionTaken := none }

inductive TriageEvent where
  | receive (id : ℕ) (inbound : InboundEmail)
  /-- Any operation of the hub. -/
  | hub (event : HubEvent)
  | linkEmailToTicket (id : ℕ) (ticketNumber : ℤ) (linkedBy now : ℕ)
  | actionEmail (id : ℕ) (req : Request) (brokerUp : Bool) (action : String) (actionedBy now : ℕ)
      (assigneeId : Option ℕ)
  | ignoreEmail (id : ℕ)

def assigned (office : Office) (event : HubEvent) (db : HubDb) : List HubEmailAssignment :=
  (hubStep office.hub db event).assignments.drop db.assignments.length

/-- One step.  The services that assign a hub email hand its original over where they write the row
of the assignment; what raises changes nothing. -/
def triageStep (office : Office) (triage : Triage) : TriageEvent → Triage
  | .receive id inbound =>
    if (triage.inbounds id).isSome then triage else triage.put id (arrived inbound)
  | .hub event =>
    (assigned office event triage.hub).foldl Triage.handOver
      { triage with hub := hubStep office.hub triage.hub event }
  | .linkEmailToTicket id ticketNumber linkedBy now =>
    match triage.inbounds id with
    | none => triage
    | some inbound =>
      match linkEmailToTicket office ticketNumber linkedBy now triage.hub.tickets inbound with
      | .error _ => triage
      | .ok after => triage.put id after
  | .actionEmail id req brokerUp action actionedBy now assigneeId =>
    match triage.inbounds id with
    | none => triage
    | some inbound =>
      match
        actionEmail office req action actionedBy now assigneeId triage.hub.tickets inbound with
      | .error _ => triage
      | .ok (db, after) =>
        { triage with hub := { triage.hub with tickets := db.commit brokerUp } }.put id after
  | .ignoreEmail id =>
    match triage.inbounds id with
    | none => triage
    | some inbound =>
      match ignoreEmail inbound with
      | .error _ => triage
      | .ok after => triage.put id after

/-! ## Stamps -/

/-- What the status of an email says of its stamps. -/
structure Settled (inbound : InboundEmail) : Prop where
  actioned : inbound.inboxStatus = .actioned ↔ inbound.actionedAt.isSome
  pending : inbound.inboxStatus = .pending → inbound.linkedAt = none
  linked : inbound.inboxStatus = .linked → inbound.linkedAt.isSome
  stamps : inbound.linkedAt = none ↔ inbound.linkedBy = none
  unlinked : inbound.linkedAt = none → inbound.actionedAt = none

variable {now linkedBy : ℕ} {ticketNumber : ℤ}

section Stamps

variable {office : Office} {db : Db} {old inbound after : InboundEmail}

theorem saveInbound_eq_ok (hsave : saveInbound old inbound = .ok after) :
    after = inbound ∧ (old.actionedAt.isSome → inbound.actionedAt = old.actionedAt) ∧
      (old.linkedAt.isSome → inbound.linkedAt = old.linkedAt) ∧
        (old.linkedBy.isSome → inbound.linkedBy = old.linkedBy) := by
  unfold saveInbound at hsave
  split at hsave
  · cases hsave
  rename_i hactioned
  split at hsave
  · cases hsave
  split at hsave
  · cases hsave
  rename_i hlinked
  split at hsave
  · cases hsave
  rename_i hlinkedBy
  refine ⟨(Except.ok.inj hsave).symm, fun hsome => ?_, fun hsome => ?_, fun hsome => ?_⟩
  · exact not_not.mp fun hne => hactioned ⟨hsome, hne⟩
  · exact not_not.mp fun hne => hlinked ⟨hsome, hne⟩
  · exact not_not.mp fun hne => hlinkedBy ⟨hsome, hne⟩

theorem linkedAt_of_linked_again
    (hlink : linkEmailToTicket office ticketNumber linkedBy now db inbound = .ok after)
    (hlinked : inbound.linkedAt.isSome) : inbound.linkedAt = some now := by
  unfold linkEmailToTicket at hlink
  split at hlink
  · cases hlink
  split at hlink
  · cases hlink
  split at hlink
  · cases hlink
  obtain ⟨-, -, hstamp, -⟩ := saveInbound_eq_ok hlink
  exact (hstamp hlinked).symm

theorem saveInbound_of_unlinked (hlinked : old.linkedAt = none) (hlinkedBy : old.linkedBy = none)
    (hactioned : inbound.actionedAt = old.actionedAt)
    (hactionedBy : inbound.actionedBy = old.actionedBy) :
    saveInbound old inbound = .ok inbound := by
  simp [saveInbound, hlinked, hlinkedBy, hactioned, hactionedBy]

theorem settled_arrived (inbound : InboundEmail) : Settled (arrived inbound) where
  actioned := by simp [arrived]
  pending _ := rfl
  linked := nofun
  stamps := Iff.rfl
  unlinked _ := rfl

theorem Settled.handOver (settled : Settled inbound) (user : ℕ)
    (hlinked : inbound.linkedAt = none) :
    Settled (handOver user inbound) where
  actioned := by simp [Inbox.handOver, settled.unlinked hlinked]
  pending _ := hlinked
  linked := nofun
  stamps := settled.stamps
  unlinked := settled.unlinked

theorem Settled.link (settled : Settled inbound)
    (hagain : ¬ (inbound.inboxStatus = .actioned ∧ inbound.linkedAt = some now ∧
      inbound.linkedBy = some linkedBy))
    (hlink : linkEmailToTicket office ticketNumber linkedBy now db inbound = .ok after) :
    Settled after := by
  unfold linkEmailToTicket at hlink
  split at hlink
  · cases hlink
  split at hlink
  · cases hlink
  split at hlink
  · cases hlink
  obtain ⟨rfl, -, hlinkedAt, hlinkedBy⟩ := saveInbound_eq_ok hlink
  have hactioned : inbound.actionedAt = none := by
    cases hstamp : inbound.linkedAt with
    | none => exact settled.unlinked hstamp
    | some stamp =>
      have hby : inbound.linkedBy.isSome := by
        rw [← Option.ne_none_iff_isSome]
        intro hnone
        rw [settled.stamps.mpr hnone] at hstamp
        cases hstamp
      have hstatus : inbound.inboxStatus ≠ .actioned := fun hstatus =>
        hagain ⟨hstatus, (hlinkedAt (by rw [hstamp]; rfl)).symm, (hlinkedBy hby).symm⟩
      exact Option.not_isSome_iff_eq_none.mp fun hsome => hstatus (settled.actioned.mpr hsome)
  exact
    { actioned := by simp [hactioned]
      pending := nofun
      linked := fun _ => rfl
      stamps := by simp
      unlinked := nofun }

theorem Settled.action (settled : Settled inbound) {req : Request} {action : String}
    {actionedBy : ℕ} {assigneeId : Option ℕ} {db' : Db}
    (haction : actionEmail office req action actionedBy now assigneeId db inbound =
      .ok (db', after)) : Settled after := by
  unfold actionEmail at haction
  split at haction
  · cases haction
  split at haction
  · cases haction
  rename_i hlinked
  split at haction
  · cases haction
  · cases haction
  split at haction
  · cases haction
  obtain ⟨db₁, -, hmap⟩ := bind_eq_ok.mp haction
  obtain ⟨saved, hsave, hpair⟩ := map_eq_ok.mp hmap
  obtain ⟨rfl, -⟩ := saveInbound_eq_ok hsave
  obtain ⟨-, rfl⟩ := Prod.mk.inj hpair
  have hstamp := settled.linked (not_not.mp hlinked)
  exact
    { actioned := by simp
      pending := nofun
      linked := nofun
      stamps := settled.stamps
      unlinked := fun hnone => by
        rw [hnone] at hstamp
        cases hstamp }

theorem Settled.ignore (settled : Settled inbound) (hignore : ignoreEmail inbound = .ok after) :
    Settled after := by
  unfold ignoreEmail at hignore
  split at hignore
  · cases hignore
  rename_i hactioned
  split at hignore
  · cases hignore
  obtain ⟨rfl, -⟩ := saveInbound_eq_ok hignore
  exact
    { actioned := by simpa using fun hsome => hactioned (settled.actioned.mpr hsome)
      pending := nofun
      linked := nofun
      stamps := settled.stamps
      unlinked := settled.unlinked }

end Stamps

/-! ## Runs -/

/-- An actioned email is one with the stamp of an action, and a pending email can be linked to any
ticket of its tenant. -/
structure Consistent (office : Office) (triage : Triage) : Prop where
  actioned : ∀ id inbound, triage.inbounds id = some inbound →
    (inbound.inboxStatus = .actioned ↔ inbound.actionedAt.isSome)
  linkable : ∀ id inbound, triage.inbounds id = some inbound → inbound.inboxStatus = .pending →
    inbound.tenant.isSome → ∀ ticket, isShown triage.hub.tickets ticket = true → ∀ linkedBy now,
      ∃ after, linkEmailToTicket office (office.number ticket) linkedBy now triage.hub.tickets
        inbound = .ok after

/-- The hub hands over emails only that were never linked, and no actioned email is linked again at
the very time of its link by the same user. -/
def Untangled (office : Office) (triage : Triage) : TriageEvent → Prop
  | .hub event =>
    ∀ row ∈ assigned office event triage.hub, ∀ inbound ∈ triage.inbounds row.hubEmail,
      inbound.linkedAt = none
  | .linkEmailToTicket id _ linkedBy now =>
    ∀ inbound ∈ triage.inbounds id,
      ¬ (inbound.inboxStatus = .actioned ∧ inbound.linkedAt = some now ∧
        inbound.linkedBy = some linkedBy)
  | _ => True

def AllSettled (triage : Triage) : Prop :=
  ∀ id inbound, triage.inbounds id = some inbound → Settled inbound

section Runs

variable {office : Office} {triage : Triage}

theorem AllSettled.put (settled : AllSettled triage) {id : ℕ} {inbound : InboundEmail}
    (hnew : Settled inbound) : AllSettled (triage.put id inbound) := by
  intro other row hrow
  change (if other = id then some inbound else triage.inbounds other) = some row at hrow
  split at hrow
  · obtain rfl := Option.some.inj hrow
    exact hnew
  · exact settled other row hrow

theorem AllSettled.handOver (settled : AllSettled triage) (rows : List HubEmailAssignment)
    (hunlinked : ∀ row ∈ rows, ∀ inbound ∈ triage.inbounds row.hubEmail, inbound.linkedAt = none) :
    AllSettled (rows.foldl Triage.handOver triage) := by
  induction rows generalizing triage with
  | nil => exact settled
  | cons row rest ih =>
    rw [List.foldl_cons]
    cases hrow : triage.inbounds row.hubEmail with
    | none =>
      have hsame : triage.handOver row = triage := by rw [Triage.handOver, hrow]
      rw [hsame]
      exact ih settled fun other hmem => hunlinked other (List.mem_cons_of_mem row hmem)
    | some inbound =>
      have hput : triage.handOver row =
          triage.put row.hubEmail (Inbox.handOver row.assignedTo inbound) := by
        rw [Triage.handOver, hrow]
      have hlinked := hunlinked row List.mem_cons_self inbound hrow
      rw [hput]
      refine ih (settled.put ((settled _ _ hrow).handOver row.assignedTo hlinked)) ?_
      intro other hmem email hemail
      change (if other.hubEmail = row.hubEmail then some _ else _) = some email at hemail
      split at hemail
      · rw [← Option.some.inj hemail]
        exact hlinked
      · exact hunlinked other (List.mem_cons_of_mem row hmem) email hemail

theorem AllSettled.step (settled : AllSettled triage) {event : TriageEvent}
    (untangled : Untangled office triage event) : AllSettled (triageStep office triage event) := by
  cases event with
  | receive id inbound =>
    rw [triageStep]
    split
    · exact settled
    · exact settled.put (settled_arrived inbound)
  | hub event =>
    have moved : AllSettled { triage with hub := hubStep office.hub triage.hub event } :=
      fun id inbound hrow => settled id inbound hrow
    exact moved.handOver _ untangled
  | linkEmailToTicket id ticketNumber linkedBy now =>
    rw [triageStep]
    split
    · exact settled
    · rename_i inbound hrow
      split
      · exact settled
      · rename_i after hlink
        exact settled.put ((settled id inbound hrow).link (untangled inbound hrow) hlink)
  | actionEmail id req brokerUp action actionedBy now assigneeId =>
    rw [triageStep]
    split
    · exact settled
    · rename_i inbound hrow
      split
      · exact settled
      · rename_i db after haction
        exact AllSettled.put (fun other row hother => settled other row hother)
          ((settled id inbound hrow).action haction)
  | ignoreEmail id =>
    rw [triageStep]
    split
    · exact settled
    · rename_i inbound hrow
      split
      · exact settled
      · rename_i after hignore
        exact settled.put ((settled id inbound hrow).ignore hignore)

theorem ticketNumbered_isSome {db : Db} {ticket : ℕ} (hshown : isShown db ticket = true) :
    (ticketNumbered office (office.number ticket) db).isSome = true := by
  have hmem : ticket ∈ db.ticketIds := by
    rw [isShown, Bool.and_eq_true] at hshown
    exact of_decide_eq_true hshown.1
  rw [ticketNumbered, List.find?_isSome]
  exact ⟨ticket, hmem, by simp [hshown]⟩

theorem AllSettled.consistent (settled : AllSettled triage) : Consistent office triage where
  actioned id inbound hrow := (settled id inbound hrow).actioned
  linkable id inbound hrow hpending htenant ticket hshown linkedBy now := by
    have hlinked := (settled id inbound hrow).pending hpending
    have hlinkedBy := (settled id inbound hrow).stamps.mp hlinked
    have hnumbered : (ticketNumbered office (office.number ticket) triage.hub.tickets).isSome :=
      ticketNumbered_isSome hshown
    obtain ⟨found, hfound⟩ := Option.isSome_iff_exists.mp hnumbered
    have hpositive : ¬ (office.number ticket : ℤ) ≤ 0 := by
      have hpos := office.number_pos ticket
      omega
    have howned : inbound.tenant ≠ none := Option.ne_none_iff_isSome.mpr htenant
    simp only [linkEmailToTicket, if_neg hpositive, if_neg howned, hfound]
    exact ⟨_, saveInbound_of_unlinked hlinked hlinkedBy rfl rfl⟩

end Runs

/--
While the hub hands over emails only that were never linked, every email stays consistent.
-/
theorem always_consistent (office : Office) (hub : HubDb) (events : List TriageEvent)
    (untangled : Every (triageStep office) (Untangled office) { hub } events) :
    Always (triageStep office) (Consistent office) { hub } events :=
  always_of_invariant AllSettled (fun _ settled => settled.consistent)
    (fun _ _ settled untangled => settled.step untangled)
    (fun _ _ hrow => by cases hrow) events untangled

instance (office : Office) (triage : Triage) (event : TriageEvent) :
    Decidable (Untangled office triage event) :=
  match event with
  | .receive _ _ | .actionEmail .. | .ignoreEmail _ => isTrue trivial
  | .hub event =>
    inferInstanceAs (Decidable (∀ row ∈ assigned office event triage.hub,
      ∀ inbound ∈ triage.inbounds row.hubEmail, inbound.linkedAt = none))
  | .linkEmailToTicket id _ linkedBy now =>
    inferInstanceAs (Decidable (∀ inbound ∈ triage.inbounds id,
      ¬ (inbound.inboxStatus = .actioned ∧ inbound.linkedAt = some now ∧
        inbound.linkedBy = some linkedBy)))

/-- An office with one agent. -/
def oneAgent : Office where
  hub := { workspace := { Workspace.seeded with memberships := [{ user := 7, role := 30 }] } }
  number ticket := ticket + 1
  number_pos := Nat.succ_pos
  isUser _ := true

/-- A hub with one ticket. -/
def oneTicket : HubDb where
  tickets :=
    { tickets := fun id =>
        if id = 0 then
          some
            { status := { pk := 0, name := "Open", slug := "open", order := 10, isDefault := true }
              createdBy := 7, createdAt := 0, updatedAt := 0 }
        else none
      ticketIds := [0] }

def atNoon : Request where
  clock := ⟨0, 0, 0, 0⟩
  actor := some 7

/-- An email arrives and is parked in the hub. -/
def parked : List TriageEvent :=
  [.receive 0 { tenant := some { pk := 1, slug := "acme" }, messageId := "a@example.org" },
    .hub { op := .park 0 {}, req := atNoon }]

/-- The email is handed to an agent before it is linked. -/
theorem always_consistent_handedOver :
    Always (triageStep oneAgent) (Consistent oneAgent) { hub := oneTicket }
      (parked ++ [.hub { op := .reassign 0 7 "", req := atNoon }, .linkEmailToTicket 0 1 7 5]) :=
  always_consistent oneAgent oneTicket _ (by decide +kernel)

/-- The email is handed over after it was linked, and cannot be linked any more. -/
theorem not_always_consistent_linked :
    ¬ Always (triageStep oneAgent) (Consistent oneAgent) { hub := oneTicket }
      (parked ++ [.linkEmailToTicket 0 1 7 5, .hub { op := .reassign 0 7 "", req := atNoon }]) := by
  intro always
  have consistent := always.finish
  obtain ⟨inbound, hrow, hpending, htenant, hlinked⟩ :
      ∃ inbound,
        (run (triageStep oneAgent) { hub := oneTicket }
          (parked ++ [.linkEmailToTicket 0 1 7 5,
            .hub { op := .reassign 0 7 "", req := atNoon }])).inbounds 0 = some inbound ∧
          inbound.inboxStatus = .pending ∧ inbound.tenant.isSome ∧ inbound.linkedAt = some 5 :=
    ⟨_, rfl, by decide +kernel, by decide +kernel, by decide +kernel⟩
  obtain ⟨after, hlink⟩ := consistent.linkable 0 inbound hrow hpending htenant 0
    (by decide +kernel) 7 6
  have hstamp := linkedAt_of_linked_again hlink (by rw [hlinked]; rfl)
  rw [hlinked] at hstamp
  cases hstamp

end Kanzan.Inbox

import Kanzan.Tickets.Desk

/-!
# Who is told about an assignment

The receiver of a save signals the assignee whenever the saved columns list one, and on an
update it does not know who is acting.  So the new assignee is told, but so is a user who
assigns to himself, and one who had the ticket already.
-/

namespace Kanzan.Tickets

open Support

def Work.actor (req : Request) : Work → Option ℕ
  | .autoAssignTicket _ | .autoAssignEmailTicket _ | .executeRule _ _ => none
  | _ => req.actor

/-- The user on whose behalf a service call assigns; nobody chooses the agent of an email. -/
def ServiceEvent.actor (event : ServiceEvent) : Option ℕ :=
  match event.service with
  | .onTicket _ _ work => work.actor event.req
  | .createTicket creator _ => some creator
  | .createTicketFromEmail systemUser overrides _ => overrides.assignee.map fun _ => systemUser
  | .splitTicket _ actor _ => some actor

namespace Desk

def notices (before after : Desk) (id user : ℕ) : ℕ :=
  (after.notifications.drop before.notifications.length).countP fun notification =>
    notification.ticket == id && notification.recipient == user

def HandedTo (before after : Desk) (actor : Option ℕ) (id user : ℕ) : Prop :=
  after.db.assigneeOf id = some user ∧ before.db.assigneeOf id ≠ some user ∧ actor ≠ some user

instance (before after : Desk) (actor : Option ℕ) (id user : ℕ) :
    Decidable (HandedTo before after actor id user) :=
  inferInstanceAs (Decidable (_ ∧ _ ∧ _))

section Steps

variable (ws : Workspace)

/-- Each user is told once about the ticket that was handed to him, and about no other. -/
def Notified (desk : Desk) (event : ServiceEvent) : Prop :=
  ∀ id user, desk.notices (desk.serve ws event) id user =
    if desk.HandedTo (desk.serve ws event) event.actor id user then 1 else 0

/-- An operation on a ticket assigns, if at all, a user who neither has it nor is acting. -/
def AssignsAnother (desk : Desk) (event : ServiceEvent) : Prop :=
  event.service.onStored = true → ∀ user ∈ event.service.assigns ws desk,
    desk.db.assigneeOf event.service.ticket ≠ some user ∧ event.actor ≠ some user

instance (desk : Desk) (event : ServiceEvent) : Decidable (desk.AssignsAnother ws event) :=
  inferInstanceAs (Decidable (_ → ∀ user ∈ event.service.assigns ws desk, _ ∧ _))

end Steps

end Desk

variable {message : String} {service : Service}

section Laws

open Audited

variable {ws : Workspace} {req : Request} {desk : Desk} {t t' : Audited} {old : Fields}

/-! ## What is sent -/

theorem count_handled (id other user : ℕ) (assignee assignedBy : Option ℕ) :
    ((assignee.toList.map fun user => TicketAssigned.mk id user assignedBy).flatMap
      handleTicketAssigned).countP
        (fun notification => notification.ticket == other && notification.recipient == user) =
      if id = other ∧ assignee = some user ∧ assignedBy ≠ some user then 1 else 0 := by
  cases assignee with
  | none => simp
  | some assignee =>
    rw [Option.toList_some, List.map_singleton, List.flatMap_singleton, handleTicketAssigned]
    by_cases hself : assignedBy = some assignee
    · rw [if_pos hself, List.countP_nil, if_neg]
      rintro ⟨-, hassignee, hother⟩
      exact hother (hself.trans hassignee)
    · rw [if_neg hself, List.countP_singleton]
      by_cases huser : assignee = user
      · subst huser
        simp [hself]
      · simp [huser]

theorem indicator_eq {p q : Prop} [Decidable p] [Decidable q] :
    ((if p then 1 else 0) = if q then 1 else 0) ↔ (p ↔ q) := by
  by_cases hp : p
  · simp [hp]
  · simp [hp]

section Sent

variable {id : ℕ} {ticket : Ticket} {skip : Bool} {new : Fields} {rows : List ActivityLog}
variable {assignee assignedBy actor : Option ℕ}

theorem notices_iff (brokerUp : Bool)
    (did : Did (desk.audit id ticket skip) t' new rows
      (assignee.toList.map fun user => TicketAssigned.mk id user assignedBy)) :
    (∀ other user, desk.notices (Desk.commit brokerUp t') other user =
        if desk.HandedTo (Desk.commit brokerUp t') actor other user then 1 else 0) ↔
      ∀ user, assignee = some user ∧ assignedBy ≠ some user ↔
        new.assignee = some user ∧ desk.db.assigneeOf id ≠ some user ∧ actor ≠ some user := by
  have hcount : ∀ other user, desk.notices (Desk.commit brokerUp t') other user =
      if id = other ∧ assignee = some user ∧ assignedBy ≠ some user then 1 else 0 := by
    intro other user
    rw [← count_handled, Desk.notices]
    show List.countP _ (t'.notifications.drop desk.notifications.length) = _
    rw [did.notifications, show (desk.audit id ticket skip).notifications = desk.notifications from
      rfl, List.drop_left]
  have hstored : (Desk.commit brokerUp t').db.assigneeOf id = new.assignee := by
    have hrow := did.at_end.row
    rw [did.id] at hrow
    rw [Desk.commit, commit_assigneeOf, assigneeOf_eq, show (t'.session.db.tickets id).map
      Ticket.fields = some new from hrow]
    rfl
  have hothers : ∀ other ≠ id, (Desk.commit brokerUp t').db.assigneeOf other =
      desk.db.assigneeOf other := by
    intro other hother
    rw [Desk.commit, commit_assigneeOf, Db.assigneeOf, did.others other hother]
    rfl
  simp only [hcount, indicator_eq]
  constructor
  · intro fits user
    refine (and_iff_right rfl).symm.trans ((fits id user).trans ?_)
    rw [Desk.HandedTo, hstored]
  · intro fits other user
    by_cases hother : other = id
    · subst hother
      rw [and_iff_right rfl, fits user, Desk.HandedTo, hstored]
    · refine iff_of_false (fun sent => hother sent.1.symm) ?_
      rintro ⟨hafter, hbefore, -⟩
      exact hbefore ((hothers other hother).symm.trans hafter)

end Sent

theorem Work.assigns_of_error {work : Work} (failure : work.perform ws req t = .error message) :
    work.assigns ws old = none := by
  cases work with
  | assignTicket assignee note =>
    refine if_neg fun hmember => ?_
    simp only [Work.perform, Audited.assignTicket, hmember, Bool.not_true, Bool.false_eq_true,
      if_false] at failure
    split at failure <;> cases failure
  | escalateTicket reason assignee queue =>
    dsimp only [Work.perform, Audited.escalateTicket] at failure
    split at failure
    · rename_i hinactive
      cases assignee with
      | none => rfl
      | some user => simpa [Work.assigns] using hinactive
    · cases failure
  | autoAssignTicket agent => cases failure
  | autoAssignEmailTicket agent => cases failure
  | executeRule now rule => cases failure
  | _ => rfl

theorem Service.assigns_of_error (hstored : service.onStored = true)
    (failure : service.attempt ws req desk = .error message) : service.assigns ws desk = none := by
  cases service with
  | onTicket id reuse work =>
    rw [Service.assigns]
    dsimp only [Service.attempt] at failure
    cases hload : desk.load id reuse with
    | none => rfl
    | some t =>
      rw [hload] at failure
      exact Work.assigns_of_error failure
  | createTicket creator data => cases hstored
  | createTicketFromEmail systemUser overrides agent => cases hstored
  | splitTicket source actor data => cases hstored

theorem ServiceEvent.actor_of_fresh {event : ServiceEvent}
    (hfresh : event.service.onStored = false) : event.actor = event.service.assignedBy := by
  obtain ⟨service, eventReq, brokerUp⟩ := event
  cases service with
  | onTicket id reuse work => cases hfresh
  | createTicket creator data => rfl
  | createTicketFromEmail systemUser overrides agent => rfl
  | splitTicket source actor data => rfl

theorem Service.assignedBy_of_stored (hstored : service.onStored = true) :
    service.assignedBy = none := by
  cases service with
  | onTicket id reuse work => rfl
  | createTicket creator data => cases hstored
  | createTicketFromEmail systemUser overrides agent => cases hstored
  | splitTicket source actor data => cases hstored

variable (ws) in
/-- One event tells those it should exactly if it assigns another. -/
theorem notified_iff (synced : desk.Synced) (event : ServiceEvent) :
    desk.Notified ws event ↔ desk.AssignsAnother ws event := by
  unfold Desk.Notified Desk.AssignsAnother Desk.serve
  cases hattempt : event.service.attempt ws event.req desk with
  | error message =>
    refine iff_of_true (fun id user => ?_) fun hstored user huser => ?_
    · rw [if_neg fun handed => handed.2.1 handed.1, Desk.notices]
      simp [Desk.drop]
    · rw [Service.assigns_of_error hstored hattempt] at huser
      cases huser
  | ok t' =>
    obtain ⟨ticket, skip, new, rows, did, assigned, hfresh⟩ := Service.did synced hattempt
    dsimp only
    rw [notices_iff event.brokerUp did]
    cases hstored : event.service.onStored with
    | true =>
      rw [Service.assignedBy_of_stored hstored]
      constructor
      · intro fits _ user huser
        exact ((fits user).mp ⟨huser, nofun⟩).2
      · intro another user
        constructor
        · rintro ⟨huser, -⟩
          exact ⟨assigned.to_new user huser, another rfl user huser⟩
        · rintro ⟨hnew, hbefore, -⟩
          exact ⟨(assigned.of_new user hnew).resolve_left hbefore, nofun⟩
    | false =>
      refine iff_of_true (fun user => ?_) nofun
      have hbefore : desk.db.assigneeOf event.service.ticket = none := by
        rw [Db.assigneeOf, hfresh hstored]
        rfl
      rw [hbefore] at assigned ⊢
      rw [ServiceEvent.actor_of_fresh hstored]
      constructor
      · rintro ⟨huser, hother⟩
        exact ⟨assigned.to_new user huser, nofun, hother⟩
      · rintro ⟨hnew, -, hother⟩
        exact ⟨(assigned.of_new user hnew).resolve_left nofun, hother⟩

variable (ws) in
/-- Every user is told about his assignments, once and about no other, in exactly the runs
whose operations assign others. -/
theorem notified_throughout_iff {start : Desk} (synced : start.Synced)
    (events : List ServiceEvent) :
    Every (Desk.serve ws) (Desk.Notified ws) start events ↔
      Every (Desk.serve ws) (Desk.AssignsAnother ws) start events := by
  refine every_iff_every ?_ ?_ synced events
  · intro desk event synced _
    exact Desk.Synced.serve ws synced event
  · intro desk event synced
    exact notified_iff ws synced event

end Laws

theorem Desk.synced_empty : ({} : Desk).Synced := by
  intro loaded hloaded
  cases hloaded

/-- A ticket is created, and its creator hands it to a colleague, who gives it back. -/
def handedOver : List ServiceEvent :=
  [ { service := .createTicket 1 { id := 5 }
      req := { clock := ⟨10, 10, 10, 10⟩, actor := some 1 } },
    { service := .onTicket 5 false (.performUpdate { tags := some ["printer"] })
      req := { clock := ⟨20, 20, 20, 20⟩, actor := some 1 } },
    { service := .onTicket 5 true (.assignTicket 2 "")
      req := { clock := ⟨30, 30, 30, 30⟩, actor := some 1 } },
    { service := .onTicket 5 false .unassign
      req := { clock := ⟨40, 40, 40, 40⟩, actor := some 2 } } ]

theorem notified_on_handedOver :
    Every (Desk.serve .seeded) (Desk.Notified .seeded) {} handedOver ∧
    (run (Desk.serve .seeded) {} handedOver).notifications =
      [{ ticket := 5, recipient := 2, assignedBy := none }] := by
  refine ⟨?_, by decide⟩
  apply (notified_throughout_iff .seeded Desk.synced_empty handedOver).mpr
  decide

/-- A ticket is created, and a colleague of the creator takes it. -/
def takenOver : List ServiceEvent :=
  [ { service := .createTicket 1 { id := 5 }
      req := { clock := ⟨10, 10, 10, 10⟩, actor := some 1 } },
    { service := .onTicket 5 false (.assignTicket 2 "")
      req := { clock := ⟨20, 20, 20, 20⟩, actor := some 2 } } ]

theorem notice_on_takenOver :
    ¬ Every (Desk.serve .seeded) (Desk.Notified .seeded) {} takenOver ∧
    (run (Desk.serve .seeded) {} takenOver).notifications =
      [{ ticket := 5, recipient := 2, assignedBy := none }] := by
  refine ⟨fun every => ?_, by decide⟩
  exact absurd (every.2.1 5 2) (by decide)

end Kanzan.Tickets

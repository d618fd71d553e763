import Mathlib.Data.List.Basic

/-!
# Dispatch of notifications

What `send_notification` pushes and emails, under transactions that commit or roll back.
-/

namespace Kanzan.Notifications

inductive NotificationType where
  | ticketAssigned
  | ticketUpdated
  | ticketComment
  | mention
  | message
  | slaBreach
  | ticketOverdue
  | paymentFailed
  | subscriptionChange
  | invitation
  | agentStatusChange
  | ticketFollowupOverdue
  | reminderDue
  | reminderOverdue
  | kbReviewRequested
  | kbArticleReviewed
  | hubEmailAssigned
  | hubEmailReassigned
  | hubEmailEscalatedToMe
  | hubEmailSlaBreachWarning
  | hubEmailSlaBreached
  deriving DecidableEq

/-- `INTERNAL_ONLY_TYPES`. -/
def internalOnlyTypes : List NotificationType :=
  [.ticketAssigned, .ticketOverdue, .ticketFollowupOverdue, .reminderDue, .reminderOverdue,
    .agentStatusChange]

inductive Channel where
  | pushToWebsocket
  | queueEmail

/-- What `send_notification` is called with. -/
structure Notice where
  tenant : ℕ
  recipient : ℕ
  type : NotificationType
  title : String
  body : String := ""
  data : List (String × String) := []

/-- A row, and the channels that were chosen at its creation. -/
structure Notification extends Notice where
  channels : List Channel
  external : .queueEmail ∈ channels → type ∉ internalOnlyTypes

structure NotificationPreference where
  inApp : Bool := true
  email : Bool := true

/-- The other tables that a dispatch reads. -/
structure Tables where
  preference : (user tenant : ℕ) → NotificationType → Option NotificationPreference
  isActiveMember : (user tenant : ℕ) → Bool

/-- The channels of a notice, in the order in which it is dispatched on them. -/
def Tables.channels (tables : Tables) (notice : Notice) : List Channel :=
  let pref := (tables.preference notice.recipient notice.tenant notice.type).getD {}
  if tables.isActiveMember notice.recipient notice.tenant then
    (if pref.inApp then [.pushToWebsocket] else []) ++
      if pref.email ∧ notice.type ∉ internalOnlyTypes then [.queueEmail] else []
  else []

theorem Tables.external (tables : Tables) (notice : Notice)
    (hemail : .queueEmail ∈ tables.channels notice) : notice.type ∉ internalOnlyTypes := by
  unfold channels at hemail
  grind

/-! ## Transactions -/

/-- A database connection, with the hooks that wait for its commit, and what has been dispatched. -/
structure Connection where
  tables : Tables
  notifications : List Notification := []
  onCommit : List (Notification × Channel) := []
  dispatched : List (Notification × Channel) := []

/-- Code that notifies by `send_notification`; what follows a transaction is told whether it was
committed. -/
inductive Code where
  | done
  | fail
  | work (change : Tables → Tables) (next : Tables × List Notification → Code)
  | sendNotification (notice : Notice) (next : Code)
  | atomic (body : Code) (next : Bool → Code)

def Notification.deliveries (notification : Notification) : List (Notification × Channel) :=
  notification.channels.map (notification, ·)

/-- `send_notification`. -/
def Connection.sendNotification (c : Connection) (inAtomicBlock : Bool) (notice : Notice) :
    Connection :=
  let row : Notification :=
    { notice with channels := c.tables.channels notice, external := c.tables.external notice }
  let c := { c with notifications := c.notifications ++ [row] }
  if inAtomicBlock then { c with onCommit := c.onCommit ++ row.deliveries }
  else { c with dispatched := c.dispatched ++ row.deliveries }

/-- Whether code returns, and what it leaves.  A rollback drops the hooks since its savepoint. -/
def Code.exec (inAtomicBlock : Bool) : Code → Connection → Bool × Connection
  | done, c => (true, c)
  | fail, c => (false, c)
  | work change next, c =>
    (next (change c.tables, c.notifications)).exec inAtomicBlock
      { c with tables := change c.tables }
  | sendNotification notice next, c =>
    next.exec inAtomicBlock (c.sendNotification inAtomicBlock notice)
  | atomic body next, c =>
    let (returns, after) := body.exec true c
    (next returns).exec inAtomicBlock
      (if !returns then { c with dispatched := after.dispatched }
      else if inAtomicBlock then after
      else { after with onCommit := [], dispatched := after.dispatched ++ after.onCommit })

/-- What has been dispatched or waits is what was chosen for the rows; a transaction only waits. -/
structure Settled (inAtomicBlock : Bool) (before after : Connection) : Prop where
  deliveries : after.dispatched ++ after.onCommit =
    after.notifications.flatMap Notification.deliveries
  withheld : inAtomicBlock = true → after.dispatched = before.dispatched
  clear : inAtomicBlock = false → after.onCommit = []

theorem Code.settled (code : Code) {inAtomicBlock : Bool} {before c : Connection}
    (settled : Settled inAtomicBlock before c) :
    Settled inAtomicBlock before (code.exec inAtomicBlock c).2 := by
  induction code generalizing inAtomicBlock before c with
  | done => exact settled
  | fail => exact settled
  | work change next ih => exact ih _ ⟨settled.deliveries, settled.withheld, settled.clear⟩
  | sendNotification notice next ih =>
    refine ih ?_
    obtain ⟨hdeliveries, hwithheld, hclear⟩ := settled
    cases inAtomicBlock with
    | true =>
      refine ⟨?_, hwithheld, nofun⟩
      simp [Connection.sendNotification, ← hdeliveries]
    | false =>
      refine ⟨?_, nofun, hclear⟩
      simp [Connection.sendNotification, ← hdeliveries, hclear rfl]
  | atomic body next ihbody ihnext =>
    obtain ⟨hdeliveries, hwithheld, -⟩ : Settled true c (body.exec true c).2 :=
      ihbody ⟨settled.deliveries, fun _ => rfl, nofun⟩
    simp only [exec]
    generalize body.exec true c = ran at hdeliveries hwithheld
    obtain ⟨returns, after⟩ := ran
    refine ihnext returns ?_
    cases returns with
    | false =>
      have hnone : after.dispatched = c.dispatched := hwithheld rfl
      change Settled inAtomicBlock before { c with dispatched := after.dispatched }
      rwa [hnone]
    | true =>
      cases inAtomicBlock with
      | true => exact ⟨hdeliveries, fun _ => (hwithheld rfl).trans (settled.withheld rfl), nofun⟩
      | false => exact ⟨(List.append_nil _).trans hdeliveries, nofun, fun _ => rfl⟩

/-- A notification that stays is dispatched once on each channel chosen for it, in the order of
creation; one that is rolled back is not.  No email is of an internal type. -/
theorem dispatched_eq (code : Code) (tables : Tables) :
    let after := (code.exec false { tables }).2
    after.dispatched = after.notifications.flatMap Notification.deliveries ∧
      ∀ notification, (notification, .queueEmail) ∈ after.dispatched →
        notification.type ∉ internalOnlyTypes := by
  have settled : Settled false { tables } (code.exec false { tables }).2 :=
    code.settled ⟨rfl, nofun, fun _ => rfl⟩
  have hsent := settled.deliveries
  rw [settled.clear rfl, List.append_nil] at hsent
  refine ⟨hsent, fun notification hmem => ?_⟩
  rw [hsent] at hmem
  obtain ⟨row, -, hdelivery⟩ := List.mem_flatMap.mp hmem
  obtain ⟨channel, hchannel, heq⟩ := List.mem_map.mp hdelivery
  obtain ⟨rfl, rfl⟩ := Prod.mk.inj heq
  exact row.external hchannel

end Kanzan.Notifications

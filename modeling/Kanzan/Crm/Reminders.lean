import Mathlib.Data.List.Sort
import Kanzan.Support.Processes
import Kanzan.Support.Tables

/-!
# Reminders

The reminders of all tenants, the ticks of `fire_due_reminders` and the requests that edit
reminders.  A tick works through a snapshot of the due reminders of a tenant; a request reads a
reminder and writes it later.
-/

namespace Kanzan.Crm

open Support

structure Contact where
  id : ℕ
  fullName : String

/-- The columns that the alerts and the requests use. -/
structure Reminder where
  subject : String := ""
  scheduledAt : ℕ
  completedAt : Option ℕ := none
  cancelledAt : Option ℕ := none
  dueNotifiedAt : Option ℕ := none
  priority : String := "medium"
  contacts : List Contact := []
  assignedTo : Option ℕ := none
  createdBy : ℕ

def Reminder.isOpen (reminder : Reminder) : Bool :=
  reminder.completedAt.isNone && reminder.cancelledAt.isNone

def Reminder.notifiedBefore (reminder : Reminder) (time : ℕ) : Bool :=
  match reminder.dueNotifiedAt with
  | none => true
  | some dueNotifiedAt => dueNotifiedAt < time

def Reminder.isDue (reminder : Reminder) (now : ℕ) : Bool :=
  reminder.scheduledAt ≤ now && reminder.isOpen && reminder.notifiedBefore reminder.scheduledAt

/-- A call of `send_notification`, and whether the reminder was open when it was stamped. -/
structure Alert where
  reminder : ℕ
  recipient : ℕ
  title : String
  body : String
  contactIds : List ℕ
  priority : String
  scheduledAt : ℕ
  wasOpen : Bool

def Alert.key (alert : Alert) : ℕ × ℕ := (alert.reminder, alert.scheduledAt)

def dueBody (contacts : List Contact) : String :=
  let names := (contacts.map Contact.fullName).filter (· ≠ "")
  let contactName := ", ".intercalate names
  if names.isEmpty then "Your reminder is due now."
  else s!"Reminder for {contactName} is due now."

def alertOf (pk : ℕ) (reminder : Reminder) (wasOpen : Bool) : Alert where
  reminder := pk
  recipient := reminder.assignedTo.getD reminder.createdBy
  title := "Reminder due: " ++ reminder.subject
  body := dueBody reminder.contacts
  contactIds := reminder.contacts.map Contact.id
  priority := reminder.priority
  scheduledAt := reminder.scheduledAt
  wasOpen := wasOpen

/-! ## Tables -/

/-- The reminders, and the alerts in the order of their sending. -/
structure Desk where
  rows : ℕ → Option Reminder
  pks : List ℕ
  alerts : List Alert := []

def Desk.update (desk : Desk) (f : ℕ → Reminder → Reminder) : Desk :=
  { desk with rows := fun pk => (desk.rows pk).map (f pk) }

def Desk.modify (desk : Desk) (pk : ℕ) (f : Reminder → Reminder) : Desk :=
  desk.update fun other row => if other = pk then f row else row

def Desk.insert (desk : Desk) (pk : ℕ) (reminder : Reminder) : Desk :=
  { desk with
    rows := fun other => if other = pk then some reminder else desk.rows other
    pks := desk.pks ++ [pk] }

/-- The query of a tick: the due reminders of a tenant, by the time they are scheduled at. -/
def dueReminders (tenantOf : ℕ → ℕ) (desk : Desk) (tenant now : ℕ) : List (ℕ × Reminder) :=
  (desk.pks.filterMap fun pk =>
    (desk.rows pk).bind fun reminder =>
      if tenantOf pk = tenant ∧ reminder.isDue now then some (pk, reminder) else none).insertionSort
    fun first second => first.2.scheduledAt ≤ second.2.scheduledAt

/-! ## Turns -/

/-- A tick or a request. -/
inductive Worker where
  | ready
  /-- A tick with the tenants that it has not looked at and the due reminders that it has read. -/
  | ticking (now : ℕ) (tenants : List ℕ) (candidates : List (ℕ × Reminder))
  /-- A reminder is stamped, and its alert is to be sent. -/
  | sending (now : ℕ) (tenants : List ℕ) (candidates : List (ℕ × Reminder)) (alert : Alert)
  /-- A request has read a reminder. -/
  | editing (pk : ℕ) (reminder : Reminder)
  | done

def settled (now : ℕ) : List ℕ → List (ℕ × Reminder) → Worker
  | [], [] => .done
  | tenants, candidates => .ticking now tenants candidates

/-- The fields of a raw `PATCH`. -/
structure Changes where
  subject : Option String := none
  scheduledAt : Option ℕ := none
  priority : Option String := none
  contacts : Option (List Contact) := none
  assignedTo : Option (Option ℕ) := none

def Changes.apply (changes : Changes) (reminder : Reminder) : Reminder :=
  { reminder with
    subject := changes.subject.getD reminder.subject
    scheduledAt := changes.scheduledAt.getD reminder.scheduledAt
    priority := changes.priority.getD reminder.priority
    contacts := changes.contacts.getD reminder.contacts
    assignedTo := changes.assignedTo.getD reminder.assignedTo }

inductive BulkAction where
  | complete (now : ℕ)
  | cancel (now : ℕ)
  | reschedule (newTime : ℕ)
  | reassign (user : ℕ)

def BulkAction.apply (action : BulkAction) (reminder : Reminder) : Reminder :=
  match action with
  | .complete now => if reminder.isOpen then { reminder with completedAt := some now } else reminder
  | .cancel now => if reminder.isOpen then { reminder with cancelledAt := some now } else reminder
  | .reschedule newTime =>
    if reminder.completedAt.isNone then { reminder with scheduledAt := newTime } else reminder
  | .reassign user => { reminder with assignedTo := some user }

inductive Action where
  /-- A tick begins, with the active tenants. -/
  | begin (now : ℕ) (tenants : List ℕ)
  | select
  | stamp
  | send
  /-- A request reads its reminder. -/
  | get (pk : ℕ)
  | complete (now : ℕ)
  | cancel (now : ℕ)
  | reschedule (newScheduledAt : ℕ)
  | patch (changes : Changes)
  | bulkAction (ids : List ℕ) (action : BulkAction)
  | create (pk : ℕ) (reminder : Reminder)

/-- A turn of a worker; an action that is not its next one does nothing.  A `PATCH` saves every
column as the request has read it. -/
def act (tenantOf : ℕ → ℕ) (_worker : ℕ) (desk : Desk) (worker : Worker) : Action → Desk × Worker
  | .begin now tenants =>
    match worker with
    | .ready => (desk, settled now tenants [])
    | other => (desk, other)
  | .select =>
    match worker with
    | .ticking now (tenant :: tenants) [] =>
      (desk, settled now tenants (dueReminders tenantOf desk tenant now))
    | other => (desk, other)
  | .stamp =>
    match worker with
    | .ticking now tenants ((pk, reminder) :: candidates) =>
      (desk.modify pk fun row => { row with dueNotifiedAt := some now },
        .sending now tenants candidates
          (alertOf pk reminder ((desk.rows pk).any Reminder.isOpen)))
    | other => (desk, other)
  | .send =>
    match worker with
    | .sending now tenants candidates alert =>
      ({ desk with alerts := desk.alerts ++ [alert] }, settled now tenants candidates)
    | other => (desk, other)
  | .get pk =>
    match worker with
    | .ready =>
      match desk.rows pk with
      | none => (desk, .done)
      | some reminder => (desk, .editing pk reminder)
    | other => (desk, other)
  | .complete now =>
    match worker with
    | .editing pk reminder =>
      if reminder.isOpen then
        (desk.modify pk fun row => { row with completedAt := some now }, .done)
      else (desk, .done)
    | other => (desk, other)
  | .cancel now =>
    match worker with
    | .editing pk reminder =>
      if reminder.isOpen then
        (desk.modify pk fun row => { row with cancelledAt := some now }, .done)
      else (desk, .done)
    | other => (desk, other)
  | .reschedule newScheduledAt =>
    match worker with
    | .editing pk reminder =>
      if reminder.completedAt.isNone then
        (desk.modify pk fun row => { row with scheduledAt := newScheduledAt }, .done)
      else (desk, .done)
    | other => (desk, other)
  | .patch changes =>
    match worker with
    | .editing pk reminder => (desk.modify pk fun _ => changes.apply reminder, .done)
    | other => (desk, other)
  | .bulkAction ids action =>
    match worker with
    | .ready =>
      if (desk.pks.filter (· ∈ ids)).length = ids.length then
        (desk.update fun pk row => if pk ∈ ids then action.apply row else row, .done)
      else (desk, .done)
    | other => (desk, other)
  | .create pk reminder =>
    match worker with
    | .ready =>
      if (desk.rows pk).isNone then
        (desk.insert pk
          { reminder with completedAt := none, cancelledAt := none, dueNotifiedAt := none },
          .done)
      else (desk, .done)
    | other => (desk, other)

end Kanzan.Crm

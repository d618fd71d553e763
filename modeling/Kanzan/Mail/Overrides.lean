import Kanzan.CustomFields.Values
import Kanzan.Mail.Text
import Kanzan.Support.Results
import Mathlib.Data.List.DropRight

/-!
# Overrides of ticket fields

The fields that a request may set on a ticket that is made of an email.  What is wrong with a
field is answered, but for a body that is no object and for a date that does not exist.
-/

namespace Kanzan.Mail.Overrides

open CustomFields (Json)
open Support

/-! ## Rows -/

structure Queue where
  pk : ℕ
  tenant : ℕ

structure TicketStatus where
  pk : ℕ
  tenant : ℕ
  isClosed : Bool := false

structure TenantMembership where
  tenant : ℕ
  user : ℕ
  isActive : Bool := true

structure Db where
  queues : List Queue := []
  statuses : List TicketStatus := []
  memberships : List TenantMembership := []
  users : List ℕ := []

/-- A `datetime`; without `tzinfo` it is naive. -/
structure Datetime where
  wall : ℤ
  tzinfo : Option String

/-- What the function uses of Python and Django. -/
structure Library where
  str : Json → String
  truthy : Json → Bool
  lower : String → String
  /-- `UUIDField.to_python`; nothing where it raises a `ValidationError`. -/
  uuid : Json → Option ℕ
  /-- `parse_datetime`; an error where it raises a `ValueError`. -/
  parseDatetime : String → Except Unit (Option Datetime)
  currentTimezone : String

/-- An exception: a `ValidationError` of the framework, or any other. -/
inductive Raised where
  | validation (field message : String)
  | other (exception : String)

/-- The overrides, each of which may be absent. -/
structure TicketOverrides where
  subject : Option String := none
  description : Option String := none
  priority : Option String := none
  category : Option String := none
  queue : Option Queue := none
  status : Option TicketStatus := none
  assignee : Option ℕ := none
  dueDate : Option Datetime := none
  tags : Option (List String) := none

/-! ## The fields -/

/-- The values of `Ticket.Priority`. -/
def priorities : List String := ["low", "medium", "high", "urgent"]

/-- `text[:n]`. -/
def cut (n : ℕ) (text : String) : String := String.ofList (text.toList.take n)

/-- `_as_str`. -/
def asStr : Json → String
  | .string value => strip value
  | _ => ""

def capped (n : ℕ) (text : String) : Option String := if text = "" then none else some (cut n text)

section Fields

variable (library : Library) (db : Db) (tenant : ℕ) (data : List (String × Json))

/-- `data.get(key)`. -/
def get (key : String) : Json := (data.lookup key).getD .null

def description : Option String :=
  match get data "description" with
  | .null => none
  | value =>
    if strip (library.str value) = "" then none else some (cut 20000 (library.str value))

def priority : Except Raised (Option String) :=
  let value := library.lower (asStr (get data "priority"))
  if value = "" then .ok none
  else if value ∈ priorities then .ok (some value)
  else .error (.validation "priority" "Invalid priority.")

/-- `_lookup_pk`. -/
def lookupPk {Row : Type} (rows : List Row) (isRow : Row → ℕ → Bool) (pk : Json) (label : String) :
    Except Raised (Option Row) :=
  match library.uuid pk with
  | none => .error (.validation label ("Invalid " ++ label ++ " reference."))
  | some id => .ok (rows.find? fun row => isRow row id)

def queue : Except Raised (Option Queue) :=
  if !library.truthy (get data "queue") then .ok none
  else
    (lookupPk library db.queues (fun row id => row.tenant == tenant && row.pk == id)
      (get data "queue") "queue").bind fun
        | none => .error (.validation "queue" "Selected subcategory was not found.")
        | some queue => .ok (some queue)

def status : Except Raised (Option TicketStatus) :=
  if !library.truthy (get data "status") then .ok none
  else
    (lookupPk library db.statuses (fun row id => row.tenant == tenant && row.pk == id)
      (get data "status") "status").bind fun
        | none => .error (.validation "status" "Selected status was not found.")
        | some status =>
          if status.isClosed then
            .error (.validation "status" "Cannot create a ticket directly into a closed status.")
          else .ok (some status)

def assignee : Except Raised (Option ℕ) :=
  if !library.truthy (get data "assignee") then .ok none
  else
    match library.uuid (get data "assignee") with
    | none => .error (.validation "assignee" "Invalid assignee reference.")
    | some id =>
      if id ∈ db.users ∧ db.memberships.any fun row =>
          row.tenant == tenant && row.user == id && row.isActive then .ok (some id)
      else
        .error (.validation "assignee" "Assignee is not an active member of this workspace.")

/-- `timezone.make_aware`, for a naive one. -/
def makeAware (value : Datetime) : Datetime :=
  if value.tzinfo.isNone then { value with tzinfo := some library.currentTimezone } else value

def dueDate : Except Raised (Option Datetime) :=
  if !library.truthy (get data "due_date") then .ok none
  else
    match get data "due_date" with
    | .string text =>
      match library.parseDatetime text with
      -- `parse_datetime` is not guarded
      | .error _ => .error (.other "ValueError")
      | .ok none => .error (.validation "due_date" "Invalid due-date format.")
      | .ok (some value) => .ok (some (makeAware library value))
    | _ => .error (.validation "due_date" "Invalid due-date format.")

def tags : Option (List String) :=
  match get data "tags" with
  | .array items =>
    let cleaned := ((items.map fun tag => strip (library.str tag)).filter (· ≠ "")).map (cut 50)
    if cleaned = [] then none else some cleaned
  | _ => none

end Fields

/-- `build_ticket_overrides`. -/
def buildTicketOverrides (library : Library) (db : Db) (tenant : ℕ) :
    Json → Except Raised TicketOverrides
  | .object data =>
    (priority library data).bind fun priority =>
      (queue library db tenant data).bind fun queue =>
        (status library db tenant data).bind fun status =>
          (assignee library db tenant data).bind fun assignee =>
            (dueDate library data).bind fun dueDate =>
              .ok
                { subject := capped 255 (asStr (get data "subject"))
                  description := description library data
                  priority, queue, status, assignee, dueDate
                  category := capped 100 (asStr (get data "category"))
                  tags := tags library data }
  -- only a dictionary has a `get`
  | _ => .error (.other "AttributeError")

/-! ## What is returned -/

def IsNonblank (text : String) : Prop := ∃ c ∈ text.toList, isSpace c = false

/-- The overrides keep to the limits of a ticket. -/
structure Sound (db : Db) (tenant : ℕ) (overrides : TicketOverrides) : Prop where
  subject : ∀ subject ∈ overrides.subject, IsNonblank subject ∧ subject.length ≤ 255
  priority : ∀ priority ∈ overrides.priority, priority ∈ priorities
  queue : ∀ queue ∈ overrides.queue, queue ∈ db.queues ∧ queue.tenant = tenant
  status : ∀ status ∈ overrides.status,
    status ∈ db.statuses ∧ status.tenant = tenant ∧ status.isClosed = false
  assignee : ∀ assignee ∈ overrides.assignee, ∃ row ∈ db.memberships,
    row.tenant = tenant ∧ row.user = assignee ∧ row.isActive
  dueDate : ∀ dueDate ∈ overrides.dueDate, dueDate.tzinfo.isSome
  tags : ∀ tags ∈ overrides.tags, ∀ tag ∈ tags, IsNonblank tag ∧ tag.length ≤ 50

/-- A result that the endpoint answers: sound overrides or a `ValidationError`. -/
def Answers (db : Db) (tenant : ℕ) : Except Raised TicketOverrides → Prop
  | .ok overrides => Sound db tenant overrides
  | .error (.validation _ _) => True
  | .error (.other _) => False

section Laws

variable {library : Library} {db : Db} {tenant : ℕ} {data : List (String × Json)} {text : String}

theorem nonblank_cut {n : ℕ} (hn : n ≠ 0) (hstrip : strip text ≠ "") :
    IsNonblank (cut n (strip text)) ∧ (cut n (strip text)).length ≤ n := by
  constructor
  · have htrim : trim isSpace text.toList ≠ [] := fun h => hstrip (by rw [strip, h])
    obtain ⟨c, rest, hcons⟩ := List.exists_cons_of_ne_nil htrim
    -- the stripped text is a prefix of what begins with the first character that stays
    have hprefix : c :: rest <+: text.toList.dropWhile isSpace := by
      rw [← hcons]
      exact List.rdropWhile_prefix isSpace _
    obtain ⟨tail, htail⟩ := hprefix
    have hhead := List.head?_dropWhile_not isSpace text.toList
    rw [← htail, List.cons_append, List.head?_cons] at hhead
    refine ⟨c, ?_, by simpa using hhead⟩
    obtain ⟨m, rfl⟩ := Nat.exists_eq_succ_of_ne_zero hn
    rw [cut, strip, String.toList_ofList, String.toList_ofList, hcons, List.take_succ_cons]
    exact List.mem_cons_self
  · rw [cut, String.length_ofList]
    exact List.length_take_le n _

theorem capped_asStr {n : ℕ} (hn : n ≠ 0) {value : Json} {subject : String}
    (hsubject : subject ∈ capped n (asStr value)) : IsNonblank subject ∧ subject.length ≤ n := by
  unfold capped at hsubject
  split at hsubject
  · cases hsubject
  rename_i hne
  obtain rfl := Option.mem_some_iff.mp hsubject
  cases value with
  | string text => exact nonblank_cut hn hne
  | _ => exact absurd rfl hne

theorem priority_mem {value : String} (success : priority library data = .ok (some value)) :
    value ∈ priorities := by
  unfold priority at success
  dsimp only at success
  split at success
  · cases success
  split at success
  · rename_i hmem
    rwa [← Option.some.inj (Except.ok.inj success)]
  · cases success

theorem lookupPk_mem {Row : Type} {rows : List Row} {isRow : Row → ℕ → Bool} {pk : Json}
    {label : String} {row : Row} (success : lookupPk library rows isRow pk label = .ok (some row)) :
    row ∈ rows ∧ ∃ id, isRow row id = true := by
  unfold lookupPk at success
  split at success
  · cases success
  · have hfound := Except.ok.inj success
    have hrow := List.find?_some hfound
    exact ⟨List.mem_of_find?_eq_some hfound, _, hrow⟩

theorem queue_mem {row : Queue} (success : queue library db tenant data = .ok (some row)) :
    row ∈ db.queues ∧ row.tenant = tenant := by
  unfold queue at success
  split at success
  · cases success
  obtain ⟨found, hfound, hrow⟩ := bind_eq_ok.mp success
  cases found with
  | none => cases hrow
  | some found =>
    obtain rfl := Option.some.inj (Except.ok.inj hrow)
    obtain ⟨hmem, id, his⟩ := lookupPk_mem hfound
    rw [Bool.and_eq_true, beq_iff_eq] at his
    exact ⟨hmem, his.1⟩

theorem status_mem {row : TicketStatus} (success : status library db tenant data = .ok (some row)) :
    row ∈ db.statuses ∧ row.tenant = tenant ∧ row.isClosed = false := by
  unfold status at success
  split at success
  · cases success
  obtain ⟨found, hfound, hrow⟩ := bind_eq_ok.mp success
  cases found with
  | none => cases hrow
  | some found =>
    dsimp only at hrow
    split at hrow
    · cases hrow
    rename_i hopen
    obtain rfl := Option.some.inj (Except.ok.inj hrow)
    obtain ⟨hmem, id, his⟩ := lookupPk_mem hfound
    rw [Bool.and_eq_true, beq_iff_eq] at his
    exact ⟨hmem, his.1, Bool.not_eq_true _ ▸ hopen⟩

theorem assignee_mem {user : ℕ} (success : assignee library db tenant data = .ok (some user)) :
    ∃ row ∈ db.memberships, row.tenant = tenant ∧ row.user = user ∧ row.isActive := by
  unfold assignee at success
  split at success
  · cases success
  split at success
  · cases success
  split at success
  · rename_i hmember
    obtain rfl := Option.some.inj (Except.ok.inj success)
    obtain ⟨row, hmem, hrow⟩ := List.any_eq_true.mp hmember.2
    rw [Bool.and_eq_true, Bool.and_eq_true, beq_iff_eq, beq_iff_eq] at hrow
    exact ⟨row, hmem, hrow.1.1, hrow.1.2, hrow.2⟩
  · cases success

theorem dueDate_aware {value : Datetime} (success : dueDate library data = .ok (some value)) :
    value.tzinfo.isSome := by
  unfold dueDate at success
  split at success
  · cases success
  split at success
  · split at success
    · cases success
    · cases success
    · rename_i parsed _
      obtain rfl := Option.some.inj (Except.ok.inj success)
      unfold makeAware
      cases htz : parsed.tzinfo with
      | none => simp
      | some zone => simp [htz]
  · cases success

theorem tags_mem {cleaned : List String} (htags : cleaned ∈ tags library data) :
    ∀ tag ∈ cleaned, IsNonblank tag ∧ tag.length ≤ 50 := by
  unfold tags at htags
  split at htags
  · dsimp only at htags
    split at htags
    · cases htags
    obtain rfl := Option.mem_some_iff.mp htags
    intro tag hmem
    obtain ⟨stripped, hstripped, rfl⟩ := List.mem_map.mp hmem
    rw [List.mem_filter, List.mem_map, decide_eq_true_eq] at hstripped
    obtain ⟨⟨item, -, rfl⟩, hne⟩ := hstripped
    exact nonblank_cut (by decide) hne
  · cases htags

theorem sound_of_ok {body : Json} {overrides : TicketOverrides}
    (success : buildTicketOverrides library db tenant body = .ok overrides) :
    Sound db tenant overrides := by
  cases body with
  | object data =>
    obtain ⟨_, hpriority, success⟩ := bind_eq_ok.mp success
    obtain ⟨_, hqueue, success⟩ := bind_eq_ok.mp success
    obtain ⟨_, hstatus, success⟩ := bind_eq_ok.mp success
    obtain ⟨_, hassignee, success⟩ := bind_eq_ok.mp success
    obtain ⟨_, hdueDate, success⟩ := bind_eq_ok.mp success
    obtain rfl := Except.ok.inj success
    constructor
    · exact fun subject => capped_asStr (by decide)
    · rintro _ rfl
      exact priority_mem hpriority
    · rintro _ rfl
      exact queue_mem hqueue
    · rintro _ rfl
      exact status_mem hstatus
    · rintro _ rfl
      exact assignee_mem hassignee
    · rintro _ rfl
      exact dueDate_aware hdueDate
    · exact fun cleaned => tags_mem
  | _ => cases success

/-! ## What is raised -/

/-- A step that raises nothing but a `ValidationError`. -/
def Guarded {Result : Type} (step : Except Raised Result) : Prop :=
  ∀ exception, step ≠ .error (.other exception)

theorem guarded_priority : Guarded (priority library data) := by
  intro exception h
  unfold priority at h
  dsimp only at h
  split at h
  · cases h
  split at h <;> cases h

theorem guarded_queue : Guarded (queue library db tenant data) := by
  intro exception h
  unfold queue lookupPk at h
  split at h
  · cases h
  cases hpk : library.uuid (get data "queue") with
  | none =>
    rw [hpk] at h
    cases h
  | some id =>
    rw [hpk] at h
    dsimp only [Except.bind] at h
    split at h <;> cases h

theorem guarded_status : Guarded (status library db tenant data) := by
  intro exception h
  unfold status lookupPk at h
  split at h
  · cases h
  cases hpk : library.uuid (get data "status") with
  | none =>
    rw [hpk] at h
    cases h
  | some id =>
    rw [hpk] at h
    dsimp only [Except.bind] at h
    split at h
    · cases h
    split at h <;> cases h

theorem guarded_assignee : Guarded (assignee library db tenant data) := by
  intro exception h
  unfold assignee at h
  split at h
  · cases h
  split at h
  · cases h
  split at h <;> cases h

/-- The due date is a text of a date that does not exist. -/
def IsImpossible (library : Library) (value : Json) : Prop :=
  library.truthy value ∧ ∃ text, value = .string text ∧ library.parseDatetime text = .error ()

theorem guarded_dueDate_iff :
    Guarded (dueDate library data) ↔ ¬IsImpossible library (get data "due_date") := by
  constructor
  · rintro guarded ⟨htruthy, text, htext, hraises⟩
    refine guarded "ValueError" ?_
    unfold dueDate
    rw [htext] at htruthy ⊢
    simp only [htruthy, hraises]
    rfl
  · intro possible exception h
    unfold dueDate at h
    split at h
    · cases h
    rename_i htruthy
    split at h
    · rename_i text htext
      split at h
      · rename_i hraises
        exact possible ⟨by simpa using htruthy, text, htext, hraises⟩
      · cases h
      · cases h
    · cases h

theorem guarded_bind {First Second : Type} {step : Except Raised First}
    {rest : First → Except Raised Second} {P : Prop} (guarded : Guarded step)
    (hrest : ∀ value, Guarded (rest value) ↔ P) : Guarded (step.bind rest) ↔ (step.isOk → P) := by
  cases step with
  | ok value => exact (hrest value).trans ⟨fun h _ => h, fun h => h rfl⟩
  | error raised =>
    refine iff_of_true (fun exception h => ?_) fun h => by cases h
    exact guarded exception (congrArg Except.error (Except.error.inj h))

theorem guarded_map_dueDate {Result : Type} (f : Option Datetime → Result) :
    Guarded ((dueDate library data).bind fun value => .ok (f value)) ↔
      ¬IsImpossible library (get data "due_date") := by
  rw [← guarded_dueDate_iff]
  cases dueDate library data with
  | ok value => exact iff_of_true (fun _ h => by cases h) fun _ h => by cases h
  | error raised =>
    constructor
    · exact fun guarded exception h => guarded exception (congrArg _ (Except.error.inj h))
    · exact fun guarded exception h => guarded exception (congrArg _ (Except.error.inj h))

theorem answers_iff_guarded {body : Json} :
    Answers db tenant (buildTicketOverrides library db tenant body) ↔
      Guarded (buildTicketOverrides library db tenant body) := by
  cases hbuild : buildTicketOverrides library db tenant body with
  | ok overrides => exact iff_of_true (sound_of_ok hbuild) fun _ h => by cases h
  | error raised =>
    cases raised with
    | validation field message => exact iff_of_true trivial fun _ h => by cases h
    | other exception => exact iff_of_false id fun h => h exception rfl

end Laws

/-- The fields that are read before the due date are in order. -/
def Accepted (library : Library) (db : Db) (tenant : ℕ) (data : List (String × Json)) : Prop :=
  (priority library data).isOk ∧ (queue library db tenant data).isOk ∧
    (status library db tenant data).isOk ∧ (assignee library db tenant data).isOk

/--
A body is answered if and only if it is an object and its due date, where the fields before it are
in order, is not a text of a date that does not exist.
-/
theorem buildTicketOverrides_answers_iff (library : Library) (db : Db) (tenant : ℕ) (body : Json) :
    Answers db tenant (buildTicketOverrides library db tenant body) ↔
      ∃ data, body = .object data ∧
        (Accepted library db tenant data → ¬IsImpossible library (get data "due_date")) := by
  rw [answers_iff_guarded]
  cases body with
  | object data =>
    have hobject : (∃ fields, Json.object data = .object fields ∧
        (Accepted library db tenant fields → ¬IsImpossible library (get fields "due_date"))) ↔
        (Accepted library db tenant data → ¬IsImpossible library (get data "due_date")) :=
      ⟨fun ⟨_, hfields, h⟩ => Json.object.inj hfields ▸ h, fun h => ⟨data, rfl, h⟩⟩
    rw [hobject, Accepted, and_imp, and_imp, and_imp]
    exact guarded_bind guarded_priority fun _ => guarded_bind guarded_queue fun _ =>
      guarded_bind guarded_status fun _ => guarded_bind guarded_assignee fun _ =>
        guarded_map_dueDate _
  | _ =>
    refine iff_of_false (fun guarded => guarded _ rfl) ?_
    rintro ⟨_, h, -⟩
    cases h

/-- Python and Django, as far as a body with a due date alone needs them. -/
def plainLibrary : Library where
  str _ := ""
  truthy
    | .string text => text ≠ ""
    | _ => false
  lower := id
  uuid _ := none
  parseDatetime text := if text = "2024-02-30T09:00" then .error () else .ok none
  currentTimezone := "UTC"

/-- A well-formed date that does not exist is not answered. -/
theorem not_buildTicketOverrides_answers :
    ¬ ∀ (library : Library) (db : Db) (tenant : ℕ) (body : Json),
      Answers db tenant (buildTicketOverrides library db tenant body) :=
  fun hall => hall plainLibrary {} 0 (.object [("due_date", .string "2024-02-30T09:00")])

end Kanzan.Mail.Overrides

import Kanzan.Tickets.Rows

/-!
# Splitting a ticket

Comments of a ticket are moved to a new one.  They are moved by their ids alone, whatever threads
they are in, and the endpoint hands on a priority that the request does not have.
-/

namespace Kanzan.Tickets.Splits

/-! ## Rows -/

/-- A comment on a ticket; its key is its place in the table. -/
structure Comment where
  ticket : ℕ
  parent : Option ℕ := none
  author : ℕ
  body : String
  isInternal : Bool := false
  deriving DecidableEq

structure Ticket where
  number : ℕ
  subject : String
  description : String := ""
  status : TicketStatus
  priority : Priority
  queue : Option ℕ := none
  assignee : Option ℕ := none
  assignedBy : Option ℕ := none
  contact : Option ℕ := none
  createdBy : ℕ
  deriving DecidableEq

/-- A `related_to` link. -/
structure TicketLink where
  sourceTicket : ℕ
  targetTicket : ℕ
  createdBy : ℕ
  deriving DecidableEq

/-- The tables of a tenant. -/
structure Db where
  statuses : List TicketStatus
  queues : List ℕ := []
  tickets : List Ticket
  comments : List Comment
  links : List TicketLink := []
  lastNumber : ℕ

/-- A user with the name that the comments give him. -/
structure Actor where
  pk : ℕ
  name : String

/-! ## The split -/

/-- What the service is given; a value may be `None`, where its key is present. -/
structure NewTicketData where
  subject : String
  queue : Option (Option ℕ) := none
  priority : Option (Option Priority) := none

/-- A validated `TicketSplitSerializer`; `queue` may be null. -/
structure SplitRequest where
  commentIds : List ℕ
  subject : String
  queue : Option (Option ℕ) := none
  priority : Option Priority := none

/-- Whether an exception is a `ValueError`, which the view answers. -/
inductive Failure where
  | valueError (message : String)
  | integrityError (column : String)
  deriving DecidableEq

/-- `TicketStatus.objects.filter(is_default=True).first()`, or else the first of all. -/
def defaultStatus (db : Db) : Option TicketStatus :=
  (db.statuses.find? TicketStatus.isDefault).or db.statuses.head?

/-- `Queue.objects.get(pk=queue_id)`, if there is one to get. -/
def findQueue (db : Db) (queueId : Option ℕ) : Except Failure (Option ℕ) :=
  match queueId with
  | none => .ok none
  | some pk =>
    if pk ∈ db.queues then .ok (some pk)
    else .error (.valueError ("Queue " ++ toString pk ++ " not found."))

/-- The comments of `comment_ids` on a ticket. -/
def found (sourceId : ℕ) (commentIds : List ℕ) (db : Db) : List ℕ :=
  (List.range db.comments.length).filter fun id => decide (id ∈ commentIds) &&
    db.comments[id]?.any fun row => row.ticket == sourceId

def moved (sourceId : ℕ) (commentIds : List ℕ) (db : Db) : List Comment :=
  db.comments.mapIdx fun id row =>
    if id ∈ commentIds ∧ row.ticket = sourceId then { row with ticket := db.tickets.length }
    else row

def note (actor : Actor) (ticket : ℕ) (body : String) : Comment :=
  { ticket, author := actor.pk, body, isInternal := true }

def Db.detach (db : Db) (sourceId : ℕ) (source : Ticket) (commentIds : List ℕ) (actor : Actor)
    (child : Ticket) : Db :=
  { db with
    tickets := db.tickets ++ [child]
    lastNumber := child.number
    comments := moved sourceId commentIds db ++
      [ note actor sourceId s!"Ticket split — #{child.number} created by {actor.name}",
        note actor db.tickets.length s!"Split from #{source.number} by {actor.name}" ]
    links := db.links ++ [⟨db.tickets.length, sourceId, actor.pk⟩] }

/-- `split_ticket`. -/
def splitTicket (sourceId : ℕ) (source : Ticket) (commentIds : List ℕ) (actor : Actor)
    (newTicketData : NewTicketData) (db : Db) : Except Failure Db :=
  if commentIds = [] then
    .error (.valueError "At least one comment must be selected for the split.")
  else if (found sourceId commentIds db).length ≠ commentIds.length then
    .error (.valueError "One or more comment IDs do not belong to this ticket.")
  else
    match defaultStatus db, findQueue db (newTicketData.queue.getD none) with
    | none, _ => .error (.valueError "No ticket statuses configured for this tenant.")
    | some _, .error failure => .error failure
    | some status, .ok queue =>
      match newTicketData.priority.getD (some source.priority) with
      -- the column does not take a null
      | none => .error (.integrityError "priority")
      | some priority =>
        .ok (db.detach sourceId source commentIds actor
          { number := db.lastNumber + 1
            subject := newTicketData.subject
            description := s!"Split from ticket #{source.number}"
            status, priority, queue
            assignee := source.assignee
            assignedBy := some actor.pk
            contact := source.contact
            createdBy := actor.pk })

/-- The `split` action, up to its answer. -/
def split (sourceId : ℕ) (source : Ticket) (actor : Actor) (request : SplitRequest) (db : Db) :
    Except Failure Db :=
  splitTicket sourceId source request.commentIds actor
    { subject := request.subject
      queue := some (request.queue.getD none)
      priority := some request.priority } db

/-! ## Threads -/

/-- Every reply is on the ticket of its parent. -/
def Db.Threaded (db : Db) : Prop :=
  ∀ (id : ℕ) (reply : Comment) (parent : ℕ), db.comments[id]? = some reply →
    reply.parent = some parent → ∃ row : Comment, db.comments[parent]? = some row ∧ row.ticket = reply.ticket

/-- No reply is parted from its parent. -/
def Db.WholeThreads (db : Db) (commentIds : List ℕ) : Prop :=
  ∀ (id : ℕ) (reply : Comment) (parent : ℕ), db.comments[id]? = some reply →
    reply.parent = some parent → (id ∈ commentIds ↔ parent ∈ commentIds)

/-- The ids are those of distinct comments of the ticket. -/
structure Accepted (sourceId : ℕ) (source : Ticket) (commentIds : List ℕ) (db : Db) : Prop where
  source : db.tickets[sourceId]? = some source
  nonempty : commentIds ≠ []
  nodup : commentIds.Nodup
  belongs : ∀ id ∈ commentIds, ∃ row : Comment, db.comments[id]? = some row ∧ row.ticket = sourceId

/-- What is expected of a split. -/
structure SplitInTwo (sourceId : ℕ) (source : Ticket) (request : SplitRequest) (db db' : Db) :
    Prop where
  comments : ∀ (id : ℕ) (row : Comment), db.comments[id]? = some row → db'.comments[id]? = some
    { row with ticket := if id ∈ request.commentIds then db.tickets.length else row.ticket }
  notes : (db'.comments.drop db.comments.length).map Comment.ticket = [sourceId, db.tickets.length]
  threaded : db'.Threaded
  child : ∃ child, db'.tickets = db.tickets ++ [child] ∧
    (request.queue.getD none = none → child.queue = none) ∧
    (request.priority = none → child.priority = source.priority)

section Laws

variable {db : Db} {sourceId : ℕ} {source child : Ticket} {commentIds : List ℕ} {actor : Actor}

theorem found_length (accepted : Accepted sourceId source commentIds db) :
    (found sourceId commentIds db).length = commentIds.length := by
  refine List.Perm.length_eq ((List.perm_ext_iff_of_nodup (List.nodup_range.filter _)
    accepted.nodup).mpr fun id => ?_)
  rw [List.mem_filter, List.mem_range, Bool.and_eq_true, decide_eq_true_eq]
  constructor
  · exact fun h => h.2.1
  · intro hmem
    obtain ⟨row, hrow, hticket⟩ := accepted.belongs id hmem
    refine ⟨(List.getElem?_eq_some_iff.mp hrow).1, hmem, ?_⟩
    rw [hrow, Option.any_some, beq_iff_eq]
    exact hticket

theorem moved_getElem? (accepted : Accepted sourceId source commentIds db) {id : ℕ} {row : Comment}
    (hrow : db.comments[id]? = some row) :
    (moved sourceId commentIds db)[id]? =
      some { row with ticket := if id ∈ commentIds then db.tickets.length else row.ticket } := by
  unfold moved
  rw [List.getElem?_mapIdx, hrow, Option.map_some]
  by_cases hmem : id ∈ commentIds
  · obtain ⟨other, hother, hticket⟩ := accepted.belongs id hmem
    obtain rfl := Option.some.inj (hrow.symm.trans hother)
    rw [if_pos ⟨hmem, hticket⟩, if_pos hmem]
  · rw [if_neg fun h => hmem h.1, if_neg hmem]

theorem detach_getElem? (accepted : Accepted sourceId source commentIds db) {id : ℕ} {row : Comment}
    (hrow : db.comments[id]? = some row) :
    (db.detach sourceId source commentIds actor child).comments[id]? =
      some { row with ticket := if id ∈ commentIds then db.tickets.length else row.ticket } := by
  unfold Db.detach
  rw [List.getElem?_append_left, moved_getElem? accepted hrow]
  rw [moved, List.length_mapIdx]
  exact (List.getElem?_eq_some_iff.mp hrow).1

/-- The threads stay together if and only if no reply is parted from its parent. -/
theorem detach_threaded_iff (accepted : Accepted sourceId source commentIds db)
    (threaded : db.Threaded) :
    (db.detach sourceId source commentIds actor child).Threaded ↔ db.WholeThreads commentIds := by
  have hsource : sourceId < db.tickets.length := (List.getElem?_eq_some_iff.mp accepted.source).1
  constructor
  · intro hthreaded id reply parent hreply hparent
    obtain ⟨row, hrow, hticket⟩ := threaded id reply parent hreply hparent
    obtain ⟨row', hrow', hticket'⟩ := hthreaded id _ parent (detach_getElem? accepted hreply) hparent
    obtain rfl := Option.some.inj (hrow'.symm.trans (detach_getElem? accepted hrow))
    dsimp only at hticket'
    by_cases hmem : id ∈ commentIds
    · obtain ⟨other, hother, hbelongs⟩ := accepted.belongs id hmem
      obtain rfl := Option.some.inj (hreply.symm.trans hother)
      rw [if_pos hmem] at hticket'
      refine iff_of_true hmem (by_contra fun hnot => ?_)
      rw [if_neg hnot, hticket, hbelongs] at hticket'
      omega
    · refine iff_of_false hmem fun hparents => ?_
      obtain ⟨other, hother, hbelongs⟩ := accepted.belongs parent hparents
      obtain rfl := Option.some.inj (hrow.symm.trans hother)
      rw [if_pos hparents, if_neg hmem, ← hticket, hbelongs] at hticket'
      omega
  · intro together id reply' parent hreply' hparent
    by_cases hold : id < db.comments.length
    · obtain ⟨reply, hreply⟩ : ∃ reply, db.comments[id]? = some reply :=
        ⟨_, List.getElem?_eq_getElem hold⟩
      obtain rfl := Option.some.inj (hreply'.symm.trans (detach_getElem? accepted hreply))
      obtain ⟨row, hrow, hticket⟩ := threaded id reply parent hreply hparent
      refine ⟨_, detach_getElem? accepted hrow, ?_⟩
      dsimp only
      rw [hticket]
      exact if_congr (together id reply parent hreply hparent).symm rfl rfl
    · -- the two notes are no replies
      unfold Db.detach at hreply'
      rw [List.getElem?_append_right (by rw [moved, List.length_mapIdx]; omega)] at hreply'
      have hmem := List.mem_of_getElem? hreply'
      rcases List.mem_cons.mp hmem with rfl | hmem
      · cases hparent
      · obtain rfl := List.mem_singleton.mp hmem
        cases hparent

theorem splitInTwo_detach_iff {request : SplitRequest}
    (accepted : Accepted sourceId source request.commentIds db) (threaded : db.Threaded)
    (hqueue : request.queue.getD none = none → child.queue = none)
    (hpriority : request.priority = none → child.priority = source.priority) :
    SplitInTwo sourceId source request db
        (db.detach sourceId source request.commentIds actor child) ↔
      db.WholeThreads request.commentIds := by
  rw [← detach_threaded_iff accepted threaded]
  refine ⟨SplitInTwo.threaded, fun hthreaded => ?_⟩
  exact
    { comments := fun id row hrow => detach_getElem? accepted hrow
      notes := by
        unfold Db.detach
        rw [List.drop_append_of_le_length (by rw [moved, List.length_mapIdx])]
        simp [moved, note]
      threaded := hthreaded
      child := ⟨child, rfl, hqueue, hpriority⟩ }

theorem defaultStatus_eq_none : defaultStatus db = none ↔ db.statuses = [] := by
  unfold defaultStatus
  cases db.statuses with
  | nil => simp
  | cons status rest => simp

end Laws

/--
A request that the serializer accepts splits the ticket as expected if and only if it has a
priority, a queue that there is (or none), and whole threads; and the tenant has a status.
-/
theorem split_splitInTwo_iff (sourceId : ℕ) (source : Ticket) (actor : Actor)
    (request : SplitRequest) (db : Db) (accepted : Accepted sourceId source request.commentIds db)
    (threaded : db.Threaded) :
    (∃ db', split sourceId source actor request db = .ok db' ∧
        SplitInTwo sourceId source request db db') ↔
      request.priority.isSome ∧ (∀ pk ∈ request.queue.getD none, pk ∈ db.queues) ∧
        db.statuses ≠ [] ∧ db.WholeThreads request.commentIds := by
  unfold split splitTicket
  rw [if_neg accepted.nonempty, if_neg (not_not.mpr (found_length accepted))]
  dsimp only [Option.getD_some]
  cases hstatus : defaultStatus db with
  | none => simp [defaultStatus_eq_none.mp hstatus]
  | some status =>
    have hstatuses : db.statuses ≠ [] := fun h => by
      rw [defaultStatus_eq_none.mpr h] at hstatus
      cases hstatus
    unfold findQueue
    cases hqueue : request.queue.getD none with
    | none =>
      cases hpriority : request.priority with
      | none => simp
      | some priority =>
        simp only [Except.ok.injEq, exists_eq_left']
        rw [splitInTwo_detach_iff accepted threaded (fun _ => rfl)
          (fun h => absurd (hpriority.symm.trans h) (Option.some_ne_none _))]
        simp [hstatuses]
    | some pk =>
      by_cases hpk : pk ∈ db.queues
      · cases hpriority : request.priority with
        | none => simp [hpk]
        | some priority =>
          simp only [if_pos hpk, Except.ok.injEq, exists_eq_left']
          rw [splitInTwo_detach_iff accepted threaded
            (fun h => absurd (hqueue.symm.trans h) (Option.some_ne_none _))
            (fun h => absurd (hpriority.symm.trans h) (Option.some_ne_none _))]
          simp [hstatuses, hpk]
      · simp [hpk]

/-! ## A question and its answer -/

/-- A ticket with a comment and a reply to it. -/
def answered : Db where
  statuses := [⟨0, "Open", "open", 10, false, true, false⟩]
  tickets := [⟨1, "Printer", "", ⟨0, "Open", "open", 10, false, true, false⟩, .low, none, none,
    none, none, 7⟩]
  comments := [⟨0, none, 7, "Which one?", false⟩, ⟨0, some 0, 7, "The old one.", false⟩]
  lastNumber := 1

theorem accepted_answered {source : Ticket} (hsource : answered.tickets[0]? = some source) :
    Accepted 0 source [0, 1] answered where
  source := hsource
  nonempty := by decide
  nodup := by decide
  belongs := by
    intro id hmem
    rcases List.mem_pair.mp hmem with rfl | rfl
    · exact ⟨_, rfl, rfl⟩
    · exact ⟨_, rfl, rfl⟩

theorem threaded_answered : answered.Threaded := by
  intro id reply parent hreply hparent
  match id, hreply with
  | 0, rfl => cases hparent
  | 1, rfl =>
    obtain rfl := Option.some.inj hparent
    exact ⟨_, rfl, rfl⟩

/-- The whole thread with a priority. -/
theorem split_splitInTwo_iff_answered : ∃ source db', split 0 source ⟨7, "Ann"⟩
      { commentIds := [0, 1], subject := "Old printer", priority := some .high } answered =
        .ok db' ∧
    SplitInTwo 0 source
      { commentIds := [0, 1], subject := "Old printer", priority := some .high } answered db' := by
  refine ⟨_, (split_splitInTwo_iff 0 _ ⟨7, "Ann"⟩ _ answered (accepted_answered rfl)
    threaded_answered).mpr ⟨rfl, by simp, by decide, fun id reply parent hreply hparent => ?_⟩⟩
  match id, hreply with
  | 0, rfl => cases hparent
  | 1, rfl =>
    obtain rfl := Option.some.inj hparent
    decide

/-- Without a priority nothing is split. -/
theorem not_split_splitInTwo :
    ¬ ∀ (sourceId : ℕ) (source : Ticket) (actor : Actor) (request : SplitRequest) (db : Db),
      Accepted sourceId source request.commentIds db → db.Threaded → db.statuses ≠ [] →
        ∃ db', split sourceId source actor request db = .ok db' ∧
          SplitInTwo sourceId source request db db' := by
  intro hall
  obtain ⟨db', hsplit, -⟩ := hall 0 _ ⟨7, "Ann"⟩ { commentIds := [0, 1], subject := "Old printer" }
    answered (accepted_answered rfl) threaded_answered (by decide)
  cases hsplit

end Kanzan.Tickets.Splits

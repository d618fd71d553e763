import Kanzan.Tickets.Links
import Kanzan.Tickets.SaveLaws
import Kanzan.Tickets.System

/-!
# Merged tickets

A merge moves the comments, the timeline and the attachments of one ticket to another, closes the
first and points it to the second.  Rows are told apart by their places in their tables.
-/

namespace Kanzan.Tickets.Merges

open Support
open Links (TicketLink LinkType)

/-! ## The tables of a merge -/

/-- The model that a row is about. -/
inductive ContentType where
  | ticket
  | other (model : String)
  deriving DecidableEq, Repr

structure Comment where
  pk : ℕ
  contentType : ContentType
  objectId : ℕ
  author : ℕ
  body : String
  isInternal : Bool := false
  parent : Option ℕ := none
  deriving DecidableEq, Repr

structure Attachment where
  pk : ℕ
  contentType : ContentType
  objectId : ℕ
  file : String
  originalName : String
  mimeType : String
  sizeBytes : ℕ
  uploadedBy : ℕ
  deriving DecidableEq, Repr

/-- The tables of one tenant; `nextPk` is a key that no comment and no link has had. -/
structure Store where
  db : Db := {}
  comments : List Comment := []
  attachments : List Attachment := []
  links : List TicketLink := []
  nextPk : ℕ := 0

/-- The tenant, the numbers of its tickets, and `get_full_name() or email` of its users. -/
structure Site where
  tenant : ℕ
  number : ℕ → ℕ
  nameOf : ℕ → String

def ownerOf (contentType : ContentType) (objectId : ℕ) : Option ℕ :=
  match contentType with
  | .ticket => some objectId
  | .other _ => none

def Comment.owner (comment : Comment) : Option ℕ := ownerOf comment.contentType comment.objectId

def Comment.moveTo (ticket : ℕ) (comment : Comment) : Comment := { comment with objectId := ticket }

def Attachment.owner (attachment : Attachment) : Option ℕ :=
  ownerOf attachment.contentType attachment.objectId

def Attachment.moveTo (ticket : ℕ) (attachment : Attachment) : Attachment :=
  { attachment with objectId := ticket }

/-- `Model.unscoped.filter(content_type=ticket_ct, object_id=source).update(object_id=target)`. -/
def moveRows {Row : Type} (owner : Row → Option ℕ) (moveTo : ℕ → Row → Row) (source target : ℕ)
    (rows : List Row) : List Row :=
  rows.map fun row => if owner row = some source then moveTo target row else row

/-- `TicketLink.objects.get_or_create` of the link from a duplicate. -/
def Store.linkDuplicate (site : Site) (secondary primary : ℕ) (store : Store) : Store :=
  if store.links.any fun link => link.tenant == site.tenant && link.sourceTicket == secondary &&
      link.targetTicket == primary && link.linkType == .duplicateOf then store
  else
    { store with
      links := store.links ++
        [{ pk := store.nextPk, tenant := site.tenant, sourceTicket := secondary
           targetTicket := primary, linkType := .duplicateOf }]
      nextPk := store.nextPk + 1 }

/-- `Comment(...).save()` of an internal comment on a ticket. -/
def Store.addInternalComment (ticket author : ℕ) (body : String) (store : Store) : Store :=
  { store with
    comments := store.comments ++
      [{ pk := store.nextPk, contentType := .ticket, objectId := ticket, author, body
         isInternal := true }]
    nextPk := store.nextPk + 1 }

/-- A call of `merge_tickets` under the configuration that it finds. -/
structure Merge where
  ws : Workspace
  req : Request
  primary : ℕ
  secondary : ℕ

/-- `merge_tickets`, with the receivers that the save of the secondary runs. -/
def mergeTickets (site : Site) (merge : Merge) (store : Store) : Except String Store := do
  let db ← attempt merge.ws merge.req (.mergeTickets merge.primary merge.secondary) store.db
  match merge.req.actor with
  | none => .error "'NoneType' object has no attribute 'get_full_name'"
  | some actor =>
    let store :=
      { store with
        comments := moveRows Comment.owner Comment.moveTo merge.secondary merge.primary
          store.comments
        attachments := moveRows Attachment.owner Attachment.moveTo merge.secondary merge.primary
          store.attachments }
    let store := store.linkDuplicate site merge.secondary merge.primary
    return { store with db }.addInternalComment merge.secondary actor
      s!"Merged into #{site.number merge.primary} by {site.nameOf actor}"

/-- A merge that raises leaves the store as it was, and one that returns has no hooks to run. -/
def step (site : Site) (store : Store) (merge : Merge) : Store :=
  match mergeTickets site merge store with
  | .error _ => store
  | .ok after => after

/-! ## What a merge is to do -/

/--
A table after a merge: its rows in their places, those of the secondary under the primary, and
perhaps more rows of either ticket.
-/
def Rehomed {Row : Type} (owner : Row → Option ℕ) (moveTo : ℕ → Row → Row)
    (primary secondary : ℕ) (before after : List Row) : Prop :=
  ∃ added, after = moveRows owner moveTo secondary primary before ++ added ∧
    ∀ row ∈ added, owner row = some primary ∨ owner row = some secondary

def activityOwner (activity : TicketActivity) : Option ℕ := some activity.ticket

def moveActivity (ticket : ℕ) (activity : TicketActivity) : TicketActivity :=
  { activity with ticket }

/-- The rows of the two tickets are together, and no row of another ticket has changed. -/
structure Joined (merge : Merge) (before after : Store) : Prop where
  comments : Rehomed Comment.owner Comment.moveTo merge.primary merge.secondary before.comments
    after.comments
  activities : Rehomed activityOwner moveActivity merge.primary merge.secondary
    before.db.activities after.db.activities
  attachments : Rehomed Attachment.owner Attachment.moveTo merge.primary merge.secondary
    before.attachments after.attachments
  tickets : ∀ other ≠ merge.secondary, after.db.tickets other = before.db.tickets other
  pauses : ∀ other ≠ merge.secondary, after.db.pausesOf other = before.db.pausesOf other

/-- `merged_into`. -/
def Store.mergedInto (store : Store) (id : ℕ) : Option ℕ :=
  (store.db.tickets id).bind Ticket.mergedInto

/-- No chain of merges leads from a ticket back to itself. -/
def Acyclic (store : Store) : Prop := NoCycle (Points store.mergedInto)

/-- The merge has two different tickets of the store and somebody who asks for it. -/
structure Proper (merge : Merge) (store : Store) : Prop where
  different : merge.primary ≠ merge.secondary
  primary : (store.db.tickets merge.primary).isSome
  secondary : (store.db.tickets merge.secondary).isSome
  actor : merge.req.actor.isSome

/-- The primary of a merge has not been merged, by whatever chain, into its secondary. -/
def NoWayBack (store : Store) (merge : Merge) : Prop :=
  Proper merge store →
    ¬ Relation.ReflTransGen (Points store.mergedInto) merge.primary merge.secondary

section Tables

variable {Row : Type} {owner : Row → Option ℕ} {moveTo : ℕ → Row → Row}
variable {primary secondary : ℕ} {before after : List Row}

theorem Rehomed.others (rehomed : Rehomed owner moveTo primary secondary before after)
    (hmoved : ∀ row, owner row = some secondary → owner (moveTo primary row) = some primary)
    {other : ℕ} (hprimary : other ≠ primary) (hsecondary : other ≠ secondary) :
    (after.filter fun row => owner row = some other) =
      before.filter fun row => owner row = some other := by
  obtain ⟨added, rfl, hadded⟩ := rehomed
  have hnone : (added.filter fun row => owner row = some other) = [] := by
    rw [List.filter_eq_nil_iff]
    intro row hmem
    rw [decide_eq_true_iff]
    rcases hadded row hmem with howner | howner
    · rw [howner]
      exact fun h => hprimary (Option.some.inj h).symm
    · rw [howner]
      exact fun h => hsecondary (Option.some.inj h).symm
  rw [List.filter_append, hnone, List.append_nil]
  induction before with
  | nil => rfl
  | cons row rest ih =>
    rw [moveRows, List.map_cons, ← moveRows, List.filter_cons, List.filter_cons, ih]
    by_cases hrow : owner row = some secondary
    · have hstays : ¬ owner row = some other := by
        rw [hrow]
        exact fun h => hsecondary (Option.some.inj h).symm
      have hgoes : ¬ owner (moveTo primary row) = some other := by
        rw [hmoved row hrow]
        exact fun h => hprimary (Option.some.inj h).symm
      simp only [if_pos hrow, hstays, hgoes, decide_false, Bool.false_eq_true, if_false]
    · rw [if_neg hrow]

theorem rehomed_moveRows {added : List Row}
    (hadded : ∀ row ∈ added, owner row = some primary ∨ owner row = some secondary) :
    Rehomed owner moveTo primary secondary before
      (moveRows owner moveTo secondary primary before ++ added) :=
  ⟨added, rfl, hadded⟩

end Tables

/-! ## What the receivers add -/

/-- A session that leads to another has only added entries to the timeline of its ticket. -/
def Appends (s s' : Session) : Prop :=
  s'.id = s.id ∧ ∃ added, s'.db.activities = s.db.activities ++ added ∧
    ∀ activity ∈ added, activity.ticket = s.id

theorem Appends.same {s s' : Session} (hid : s'.id = s.id)
    (hactivities : s'.db.activities = s.db.activities) : Appends s s' :=
  ⟨hid, [], by rw [hactivities, List.append_nil], fun _ hmem => absurd hmem List.not_mem_nil⟩

theorem Appends.respected : Respected Appends where
  refl _ := .same rfl rfl
  trans := by
    rintro a b c ⟨hid, added, hadded, howner⟩ ⟨hid', more, hmore, howner'⟩
    refine ⟨hid'.trans hid, added ++ more, by rw [hmore, hadded, List.append_assoc], ?_⟩
    intro activity hmem
    rcases List.mem_append.mp hmem with hmem | hmem
    · exact howner activity hmem
    · exact (howner' activity hmem).trans hid
  log s event := by
    refine ⟨rfl, [{ ticket := s.id, event }], rfl, fun activity hmem => ?_⟩
    rw [List.mem_singleton.mp hmem]
  modify _ _ _ := .same rfl rfl

theorem write_appends (clock : Clock) (columns : List Column) (s : Session) :
    Appends s (write clock columns s) := by
  unfold write
  split
  · exact .same rfl rfl
  · exact .same rfl rfl

theorem save_appends (ws : Workspace) (clock : Clock) (columns : List Column) (s : Session) :
    Appends s (save ws clock columns s) :=
  Appends.respected.saveDepth (fun _ _ _ => .same rfl rfl) (write_appends clock) 2 columns s

/-! ## One merge -/

section Steps

variable {site : Site} {merge : Merge} {store after : Store}

theorem attempt_merge {db' : Db}
    (success : attempt merge.ws merge.req (.mergeTickets merge.primary merge.secondary) store.db =
      .ok db') :
    merge.primary ≠ merge.secondary ∧ (store.db.tickets merge.primary).isSome ∧
      (store.db.tickets merge.secondary).isSome ∧
      Rehomed activityOwner moveActivity merge.primary merge.secondary store.db.activities
        db'.activities ∧
      (∀ other ≠ merge.secondary, db'.tickets other = store.db.tickets other) ∧
      (∀ other ≠ merge.secondary, db'.pausesOf other = store.db.pausesOf other) ∧
      ∃ row, db'.tickets merge.secondary = some row ∧ row.mergedInto = some merge.primary := by
  dsimp only [attempt] at success
  split at success
  · cases success
  rename_i hprimary
  obtain ⟨secondary, t, hsecondary, hmerged, rfl⟩ := onTicket_eq_ok.mp success
  unfold Tickets.mergeTickets at hmerged
  split at hmerged
  · cases hmerged
  rename_i hdifferent
  rw [Except.ok.injEq] at hmerged
  subst hmerged
  let moved : Session :=
    { db := store.db.moveActivities merge.secondary merge.primary, id := merge.secondary
      ticket := secondary }
  let draft := mergeDraft merge.ws merge.req merge.primary secondary
  have untouched : Untouched moved (saveDraft merge.ws merge.req.clock draft moved) :=
    (Untouched.modify moved fun _ => draft.ticket).trans (save_untouched _ _ _ _)
  obtain ⟨-, added, hadded, howner⟩ :=
    save_appends merge.ws merge.req.clock draft.updateFields (moved.modify fun _ => draft.ticket)
  refine ⟨hdifferent, ?_, ?_, ?_, ?_, ?_, ?_⟩
  · exact Option.isSome_iff_ne_none.mpr fun hnone => hprimary (by rw [hnone]; rfl)
  · rw [hsecondary]
    rfl
  · refine ⟨added ++ [{ ticket := merge.primary, event := .statusChanged }], ?_, ?_⟩
    · have hmoves : moveRows activityOwner moveActivity merge.secondary merge.primary
          store.db.activities = moved.db.activities := by
        simp only [moveRows, activityOwner, Option.some.injEq]
        rfl
      rw [hmoves, ← List.append_assoc]
      exact congrArg (· ++ _) hadded
    · intro activity hmem
      rcases List.mem_append.mp hmem with hmem | hmem
      · exact .inr (congrArg some (howner activity hmem))
      · exact .inl (by rw [List.mem_singleton.mp hmem]; rfl)
  · exact untouched.others
  · exact untouched.pauses
  · obtain ⟨row, hrow, hcore⟩ := save_row merge.ws merge.req.clock
      (s := moved.modify fun _ => draft.ticket) hsecondary
      (.inl (show _ ∈ draft.updateFields from List.mem_cons_self))
    refine ⟨row, hrow, ?_⟩
    have hsame := eq_of_core hcore Ticket.mergedInto fun _ => rfl
    obtain ⟨resolvedAt, closedAt, breached, hinst⟩ := handleTicketStatusChange_eq
      merge.req.clock.preSave secondary draft.ticket
    rw [hsame]
    change ((handleTicketStatusChange _ secondary draft.ticket).persist _ _).mergedInto = _
    rw [hinst]
    rfl

theorem mergeTickets_eq_ok (success : mergeTickets site merge store = .ok after) :
    ∃ db' actor, attempt merge.ws merge.req (.mergeTickets merge.primary merge.secondary) store.db =
        .ok db' ∧
      merge.req.actor = some actor ∧ after.db = db' ∧
      after.comments = moveRows Comment.owner Comment.moveTo merge.secondary merge.primary
        store.comments ++ [{ pk := after.nextPk - 1, contentType := .ticket
                             objectId := merge.secondary, author := actor
                             body := s!"Merged into #{site.number merge.primary} by {site.nameOf actor}"
                             isInternal := true }] ∧
      after.attachments = moveRows Attachment.owner Attachment.moveTo merge.secondary merge.primary
        store.attachments := by
  obtain ⟨db', hattempt, hrest⟩ := bind_eq_ok.mp success
  cases hactor : merge.req.actor with
  | none =>
    rw [hactor] at hrest
    cases hrest
  | some actor =>
    simp only [hactor] at hrest
    cases hrest
    refine ⟨db', actor, hattempt, rfl, rfl, ?_, ?_⟩
    · unfold Store.addInternalComment Store.linkDuplicate
      split <;> rfl
    · unfold Store.addInternalComment Store.linkDuplicate
      split <;> rfl

theorem proper_of_success (success : mergeTickets site merge store = .ok after) :
    Proper merge store := by
  obtain ⟨db', actor, hattempt, hactor, -⟩ := mergeTickets_eq_ok success
  obtain ⟨hdifferent, hprimary, hsecondary, -⟩ := attempt_merge hattempt
  exact ⟨hdifferent, hprimary, hsecondary, by rw [hactor]; rfl⟩

theorem success_of_proper (site : Site) (proper : Proper merge store) :
    ∃ after, mergeTickets site merge store = .ok after := by
  obtain ⟨secondary, hsecondary⟩ := Option.isSome_iff_exists.mp proper.secondary
  obtain ⟨actor, hactor⟩ := Option.isSome_iff_exists.mp proper.actor
  have hprimary : ¬ (store.db.tickets merge.primary).isNone = true := by
    rw [Option.isNone_iff_eq_none]
    exact Option.isSome_iff_ne_none.mp proper.primary
  obtain ⟨db', hattempt⟩ : ∃ db', attempt merge.ws merge.req
      (.mergeTickets merge.primary merge.secondary) store.db = .ok db' := by
    obtain ⟨t, hmerged⟩ : ∃ t, Tickets.mergeTickets merge.ws merge.req merge.primary
        { db := store.db, id := merge.secondary, ticket := secondary } = .ok t := by
      rw [Tickets.mergeTickets, if_neg proper.different]
      exact ⟨_, rfl⟩
    dsimp only [attempt]
    rw [if_neg hprimary]
    exact ⟨t.db, onTicket_eq_ok.mpr ⟨secondary, t, hsecondary, hmerged, rfl⟩⟩
  simp only [mergeTickets, hattempt, hactor]
  exact ⟨_, rfl⟩

theorem joined_of_success (success : mergeTickets site merge store = .ok after) :
    Joined merge store after := by
  obtain ⟨db', actor, hattempt, -, rfl, hcomments, hattachments⟩ := mergeTickets_eq_ok success
  obtain ⟨-, -, -, hactivities, htickets, hpauses, -⟩ := attempt_merge hattempt
  refine ⟨?_, hactivities, ?_, htickets, hpauses⟩
  · rw [hcomments]
    refine rehomed_moveRows fun comment hmem => ?_
    rw [List.mem_singleton.mp hmem]
    exact .inr rfl
  · refine ⟨[], ?_, fun _ hmem => absurd hmem List.not_mem_nil⟩
    rw [hattachments, List.append_nil]

theorem mergedInto_of_success (success : mergeTickets site merge store = .ok after) :
    after.mergedInto = Function.update store.mergedInto merge.secondary (some merge.primary) := by
  obtain ⟨db', actor, hattempt, -, rfl, -, -⟩ := mergeTickets_eq_ok success
  obtain ⟨-, -, -, -, htickets, -, row, hrow, hmerged⟩ := attempt_merge hattempt
  funext id
  by_cases hid : id = merge.secondary
  · rw [hid, Function.update_self, Store.mergedInto, hrow, Option.bind_some, hmerged]
  · rw [Function.update_of_ne hid, Store.mergedInto, htickets id hid]
    rfl

theorem acyclic_step (acyclic : Acyclic store) :
    Acyclic (step site store merge) ↔ NoWayBack store merge := by
  unfold step
  cases hmerge : mergeTickets site merge store with
  | error message =>
    refine iff_of_true acyclic fun proper => ?_
    obtain ⟨after, success⟩ := success_of_proper site proper
    cases hmerge.symm.trans success
  | ok after =>
    have proper := proper_of_success hmerge
    rw [Acyclic, mergedInto_of_success hmerge, noCycle_update acyclic]
    exact ⟨fun hnot _ => hnot, fun hnone => hnone proper⟩

end Steps

/-! ## Any sequence of merges -/

def Joins (site : Site) (store : Store) (merge : Merge) : Prop :=
  ∀ after, mergeTickets site merge store = .ok after → Joined merge store after

/--
Every merge of a sequence brings the rows of its two tickets together.  The tickets stay without
cycles if and only if no primary has before been merged into its secondary.
-/
theorem merges_join_and_stay_acyclic (site : Site) (store : Store) (merges : List Merge)
    (acyclic : Acyclic store) :
    (Every (step site) (Joins site) store merges ∧ Always (step site) Acyclic store merges) ↔
      Every (step site) NoWayBack store merges := by
  have hjoins : Every (step site) (Joins site) store merges :=
    every_of_forall (fun _ _ _ success => joined_of_success success) store merges
  have hacyclic : Always (step site) Acyclic store merges ↔
      Every (step site) NoWayBack store merges :=
    always_iff_every (fun state (h : Acyclic state) => h)
      (fun _ _ h hnone => (acyclic_step h).mpr hnone) (fun _ _ h hgood => (acyclic_step h).mp hgood)
      acyclic merges
  rw [← hacyclic]
  exact ⟨fun h => h.2, fun h => ⟨hjoins, h⟩⟩

/-! ## Three tickets -/

def desk : Site where
  tenant := 0
  number id := id + 1
  nameOf _ := "Ada"

def openTicket : Ticket :=
  { status := { pk := 0, name := "Open", slug := "open", order := 10, isDefault := true }
    createdBy := 1, createdAt := 0, updatedAt := 0 }

def threeTickets : Store :=
  { db :=
      { tickets := fun id => if id < 3 then some openTicket else none
        ticketIds := [0, 1, 2] }
    comments :=
      [{ pk := 0, contentType := .ticket, objectId := 1, author := 1, body := "Still broken" }]
    nextPk := 1 }

def mergeOf (primary secondary : ℕ) : Merge where
  ws := .seeded
  req := { clock := ⟨10, 10, 10, 10⟩, actor := some 1 }
  primary := primary
  secondary := secondary

theorem acyclic_of_unmerged {store : Store} (hnone : ∀ id, store.mergedInto id = none) :
    Acyclic store := by
  intro id cycle
  obtain ⟨next, hpoints, -⟩ := Relation.TransGen.head'_iff.mp cycle
  rw [Points, hnone id] at hpoints
  cases hpoints

theorem noWayBack_of_unmerged {store : Store} {merge : Merge}
    (hnone : store.mergedInto merge.primary = none) : NoWayBack store merge := by
  intro proper chain
  rcases chain.cases_head with hsame | ⟨next, hpoints, -⟩
  · exact proper.different hsame
  · rw [Points, hnone] at hpoints
    cases hpoints

theorem acyclic_threeTickets : Acyclic threeTickets := by
  refine acyclic_of_unmerged fun id => ?_
  by_cases hid : id < 3
  · simp [Store.mergedInto, threeTickets, hid, openTicket]
  · simp [Store.mergedInto, threeTickets, hid]

/-- Two tickets are merged into a third one, the second after the first. -/
theorem merges_join_and_stay_acyclic_two :
    Every (step desk) (Joins desk) threeTickets [mergeOf 0 1, mergeOf 0 2] ∧
      Always (step desk) Acyclic threeTickets [mergeOf 0 1, mergeOf 0 2] := by
  apply (merges_join_and_stay_acyclic desk threeTickets [mergeOf 0 1, mergeOf 0 2]
    acyclic_threeTickets).mpr
  refine ⟨noWayBack_of_unmerged ?_, noWayBack_of_unmerged ?_, trivial⟩
  · decide +kernel
  · decide +kernel

/-- Two tickets are merged into each other. -/
theorem not_merges_join_and_stay_acyclic :
    ¬ ∀ (site : Site) (store : Store) (merges : List Merge), Acyclic store →
      Every (step site) (Joins site) store merges ∧ Always (step site) Acyclic store merges := by
  intro hall
  have hlast := (hall desk threeTickets [mergeOf 0 1, mergeOf 1 0] acyclic_threeTickets).2.2.2
  refine hlast 0 (Relation.TransGen.head (b := 1) ?_ (.single ?_))
  · show Store.mergedInto _ 0 = some 1
    decide +kernel
  · show Store.mergedInto _ 1 = some 0
    decide +kernel

/-! ## The other tickets -/

theorem ownerOf_moved {contentType : ContentType} {objectId ticket : ℕ}
    (howned : ownerOf contentType objectId = some ticket) (target : ℕ) :
    ownerOf contentType target = some target := by
  cases contentType with
  | ticket => rfl
  | other model => cases howned

/-- The row of a ticket, its pauses, its comments, its timeline and its attachments. -/
def Store.fileOf (store : Store) (id : ℕ) :
    Option Ticket × List SLAPause × List Comment × List TicketActivity × List Attachment :=
  (store.db.tickets id, store.db.pausesOf id, store.comments.filter (Comment.owner · = some id),
    store.db.activities.filter (activityOwner · = some id),
    store.attachments.filter (Attachment.owner · = some id))

/-- No sequence of merges touches the file of a ticket that none of them names. -/
theorem fileOf_run (site : Site) (store : Store) (merges : List Merge) (other : ℕ)
    (unnamed : ∀ merge ∈ merges, other ≠ merge.primary ∧ other ≠ merge.secondary) :
    (run (step site) store merges).fileOf other = store.fileOf other := by
  induction merges generalizing store with
  | nil => rfl
  | cons merge rest ih =>
    obtain ⟨⟨hprimary, hsecondary⟩, hrest⟩ := List.forall_mem_cons.mp unnamed
    refine (ih _ hrest).trans ?_
    unfold step
    split
    · rfl
    · rename_i after success
      have joined := joined_of_success success
      simp only [Store.fileOf, joined.tickets other hsecondary, joined.pauses other hsecondary,
        joined.comments.others (fun _ h => ownerOf_moved h _) hprimary hsecondary,
        joined.activities.others (fun _ _ => rfl) hprimary hsecondary,
        joined.attachments.others (fun _ h => ownerOf_moved h _) hprimary hsecondary]

theorem fileOf_run_third :
    (run (step desk) threeTickets [mergeOf 0 1]).fileOf 2 = threeTickets.fileOf 2 :=
  fileOf_run desk threeTickets [mergeOf 0 1] 2 (by simp [mergeOf])

end Kanzan.Tickets.Merges

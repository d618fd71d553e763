import Kanzan.Tickets.SaveLaws
import Kanzan.Tickets.System

/-!
# Edits that keep the status

Most operations save an edited instance without touching its status, so that no
receiver runs.  `Edits` lists all that such an operation can do to a session; a
property carried by `Edits` is carried by every one of them.
-/

namespace Kanzan.Tickets

open Sla Support

variable {ws : Workspace} {req : Request}
variable {edit : Ticket → Ticket} {op : Op} {more saved : List Column} {id : ℕ} {row : Ticket}
variable {clock : Clock} {reason : String} {assignee : Option ℕ} {queue : Option Queue}
variable {work : Session → Session}

/-! ## Edits -/

def Neutral (columns : List Column) : Prop :=
  ∀ column ∈ columns, column ∉ ([.status, .resolvedAt, .closedAt, .solvedAt,
    .autoCloseTaskId] : List Column)

instance (columns : List Column) : Decidable (Neutral columns) :=
  inferInstanceAs (Decidable (∀ column ∈ columns, _))

def Confined (columns : List Column) (edit : Ticket → Ticket) : Prop :=
  ∀ ticket, (edit ticket).persist columns ticket = edit ticket

/-- One session leads to another by saves and bookkeeping confined to some columns. -/
inductive Edits (ws : Workspace) (columns : List Column) : Session → Session → Prop
  | refl (s : Session) : Edits ws columns s s
  | save {s t : Session} (edits : Edits ws columns s t) (clock : Clock) (saved : List Column)
      (edit : Ticket → Ticket) (hsaved : saved ⊆ columns) (confined : Confined columns edit) :
      Edits ws columns s (save ws clock saved (t.modify edit))
  | modify {s t : Session} (edits : Edits ws columns s t) (edit : Ticket → Ticket)
      (confined : Confined columns edit) : Edits ws columns s (t.modify edit)
  | log {s t : Session} (edits : Edits ws columns s t) (ticket : ℕ) (event : ActivityEvent) :
      Edits ws columns s { t with db := t.db.createTicketActivity ticket event }
  | record {s t : Session} (edits : Edits ws columns s t) (row : TicketAssignment) :
      Edits ws columns s { t with db := t.db.createAssignment row }
  | respond {s t : Session} (edits : Edits ws columns s t) (now : Instant) (late : Bool) :
      Edits ws columns s
        { t with
          db := t.db.updateWhere t.id (Ticket.respond now late)
          ticket := t.ticket.respond now late }

theorem Neutral.status_notMem {columns : List Column} (neutral : Neutral columns) :
    .status ∉ columns := by
  intro hmem
  exact neutral .status hmem (by decide)

theorem Confined.status {columns : List Column} (confined : Confined columns edit)
    (hstatus : .status ∉ columns) (ticket : Ticket) : (edit ticket).status = ticket.status := by
  rw [← confined ticket]
  simp [Ticket.persist, hstatus]

theorem persist_of_subset {columns : List Column} (hsubset : columns ⊆ more) {inst : Ticket}
    (h : inst.persist columns row = inst) : inst.persist more row = inst := by
  have hcolumn : ∀ {α : Type} (column : Column) (a b : α),
      (if column ∈ more then if column ∈ columns then a else b else b) =
        if column ∈ columns then a else b := by
    intro α column a b
    by_cases hmem : column ∈ columns
    · rw [if_pos (hsubset hmem)]
    · rw [if_neg hmem, ite_self]
  rw [← h]
  simp only [Ticket.persist, hcolumn]

theorem persist_persist (columns : List Column) (inst row : Ticket) :
    (inst.persist columns row).persist columns row = inst.persist columns row := by
  have hcolumn : ∀ {α : Type} (column : Column) (a b : α),
      (if column ∈ columns then if column ∈ columns then a else b else b) =
        if column ∈ columns then a else b := by
    intro α column a b
    split <;> rfl
  simp only [Ticket.persist, hcolumn]

theorem Confined.mono {columns : List Column} (confined : Confined columns edit)
    (hsubset : columns ⊆ more) : Confined more edit :=
  fun ticket => persist_of_subset hsubset (confined ticket)

theorem save_of_same {s : Session} (settled : Settled s)
    (hsame : (edit s.ticket).status = s.ticket.status) :
    save ws clock saved (s.modify edit) = write clock saved (s.modify edit) := by
  obtain ⟨row, hrow, hstatus⟩ := settled
  have hedited : Settled (s.modify edit) := ⟨row, hrow, hstatus.trans hsame.symm⟩
  exact saveDepth_of_settled hedited 2 saved

theorem write_of_same {s : Session} (hrow : s.db.tickets s.id = some row)
    (hsame : row.status = (edit s.ticket).status) :
    write clock saved (s.modify edit) =
      let inst := (edit s.ticket).autoNow saved clock.autoNow
      { s with db := s.db.updateTicket s.id saved inst row, ticket := inst } := by
  have hinst : handleTicketStatusChange clock.preSave row (s.modify edit).ticket =
      edit s.ticket := handleTicketStatusChange_of_same hsame
  rw [write_of_row (s := s.modify edit) hrow, hinst]
  rfl

theorem save_of_same_ticket (ws : Workspace) (clock : Clock) (saved : List Column) {s : Session}
    (settled : Settled s) (hsame : (edit s.ticket).status = s.ticket.status) :
    (save ws clock saved (s.modify edit)).ticket =
      (edit s.ticket).autoNow saved clock.autoNow := by
  obtain ⟨row, hrow, hstatus⟩ := settled
  rw [save_of_same ⟨row, hrow, hstatus⟩ hsame, write_of_same hrow (hstatus.trans hsame.symm)]

namespace Edits

variable {columns : List Column} {s t u : Session}

theorem trans (first : Edits ws columns s t) (second : Edits ws columns t u) :
    Edits ws columns s u := by
  induction second with
  | refl => exact first
  | save _ clock saved edit hsaved confined ih => exact ih.save clock saved edit hsaved confined
  | modify _ edit confined ih => exact ih.modify edit confined
  | log _ ticket event ih => exact ih.log ticket event
  | record _ row ih => exact ih.record row
  | respond _ now late ih => exact ih.respond now late

theorem mono (edits : Edits ws columns s t) (hsubset : columns ⊆ more) : Edits ws more s t := by
  induction edits with
  | refl => exact .refl s
  | save _ clock saved edit hsaved confined ih =>
    exact ih.save clock saved edit (List.Subset.trans hsaved hsubset) (confined.mono hsubset)
  | modify _ edit confined ih => exact ih.modify edit (confined.mono hsubset)
  | log _ ticket event ih => exact ih.log ticket event
  | record _ row ih => exact ih.record row
  | respond _ now late ih => exact ih.respond now late

theorem untouched (edits : Edits ws columns s t) : Untouched s t := by
  induction edits with
  | refl => exact Untouched.refl s
  | save _ clock saved edit _ _ ih =>
    exact ih.trans ((Untouched.modify _ edit).trans (save_untouched _ _ _ _))
  | modify _ edit _ ih => exact ih.trans (Untouched.modify _ edit)
  | log _ ticket event ih => exact ih.trans (Untouched.createTicketActivity _ ticket event)
  | record _ row ih => exact ih.trans (Untouched.createAssignment _ row)
  | respond _ now late ih =>
    refine ih.trans ⟨rfl, ?_, ?_, fun _ _ => rfl, rfl, fun _ => rfl, rfl, rfl, rfl⟩
    · intro other hother
      simp [Db.updateWhere, hother]
    · intro other
      dsimp only [Db.updateWhere]
      split
      · exact Option.isSome_map
      · rfl

/-- Edits outside the status keep a session settled, and its history as it was. -/
theorem settled (edits : Edits ws columns s t) (hstatus : .status ∉ columns)
    (settled : Settled s) : Settled t ∧ t.db.statusLog = s.db.statusLog := by
  induction edits with
  | refl => exact ⟨settled, rfl⟩
  | @save before _ clock saved edit hsaved confined ih =>
    obtain ⟨hsettled, hlog⟩ := ih
    have hsame := confined.status hstatus before.ticket
    rw [save_of_same hsettled hsame]
    obtain ⟨row, hrow, hrowStatus⟩ := hsettled
    rw [write_of_same hrow (hrowStatus.trans hsame.symm)]
    have hnot : Column.status ∉ saved := fun hmem => hstatus (hsaved hmem)
    refine ⟨⟨_, Function.update_self .., ?_⟩, ?_⟩
    · simp [Ticket.persist, hnot, hsame, hrowStatus]
    · simp [Db.updateTicket, Ticket.persist, hnot, hlog]
  | modify _ edit confined ih =>
    obtain ⟨⟨row, hrow, hrowStatus⟩, hlog⟩ := ih
    exact ⟨⟨row, hrow, hrowStatus.trans (confined.status hstatus _).symm⟩, hlog⟩
  | log _ ticket event ih => exact ih
  | record _ row ih => exact ih
  | respond _ now late ih =>
    obtain ⟨⟨row, hrow, hrowStatus⟩, hlog⟩ := ih
    refine ⟨⟨row.respond now late, ?_, hrowStatus⟩, hlog⟩
    simp [Db.updateWhere, hrow]

theorem pauses (edits : Edits ws columns s t) (hstatus : .status ∉ columns)
    (settled : Settled s) : t.db.pauses = s.db.pauses := by
  induction edits with
  | refl => rfl
  | @save before edits clock saved edit hsaved confined ih =>
    obtain ⟨hsettled, -⟩ := edits.settled hstatus settled
    rw [save_of_same hsettled (confined.status hstatus before.ticket)]
    exact (write_pauses _ _ _).trans ih
  | modify _ edit confined ih => exact ih
  | log _ ticket event ih => exact ih
  | record _ row ih => exact ih
  | respond _ now late ih => exact ih

theorem keeps {α : Type*} (edits : Edits ws columns s t) (hstatus : .status ∉ columns)
    (settled : Settled s) (read : Ticket → α)
    (hpersist : ∀ inst row : Ticket, read (inst.persist columns row) = read row)
    (hnow : ∀ (ticket : Ticket) (now : Instant), read { ticket with updatedAt := now } = read ticket)
    (hrespond : ∀ (ticket : Ticket) now late, read (ticket.respond now late) = read ticket) :
    read t.ticket = read s.ticket ∧
      (t.db.tickets s.id).map read = (s.db.tickets s.id).map read := by
  have hautoNow : ∀ (ticket : Ticket) saved now, read (ticket.autoNow saved now) = read ticket := by
    intro ticket saved now
    unfold Ticket.autoNow
    split
    · exact hnow ticket now
    · rfl
  induction edits with
  | refl => exact ⟨rfl, rfl⟩
  | @save before edits clock saved edit hsaved confined ih =>
    have hsame := confined.status hstatus before.ticket
    obtain ⟨hsettled, -⟩ := edits.settled hstatus settled
    rw [save_of_same hsettled hsame]
    obtain ⟨row, hrow, hrowStatus⟩ := hsettled
    rw [write_of_same hrow (hrowStatus.trans hsame.symm)]
    have hid := edits.untouched.id
    refine ⟨?_, ?_⟩
    · dsimp only
      rw [hautoNow, ← confined before.ticket, hpersist, ih.1]
    · rw [← ih.2, ← hid, hrow]
      simp only [Db.updateTicket, Function.update_self, Option.map_some]
      rw [← persist_of_subset hsaved (persist_persist saved _ row), hpersist]
  | @modify before _ edit confined ih =>
    refine ⟨?_, ih.2⟩
    rw [← ih.1, ← hpersist (edit before.ticket) before.ticket, confined]
    rfl
  | log _ ticket event ih => exact ih
  | record _ row ih => exact ih
  | @respond before edits now late ih =>
    have hid := edits.untouched.id
    refine ⟨(hrespond _ now late).trans ih.1, ?_⟩
    rw [← ih.2, ← hid]
    simp only [Db.updateWhere, if_true, Option.map_map]
    congr 1
    funext ticket
    exact hrespond ticket now late

end Edits

/-! ## The operations that only edit -/

def escalationColumns : List Column :=
  [.escalationCount, .escalatedAt, .updatedAt, .assignee, .assignedBy, .assignedAt, .queue,
    .slaPolicy, .slaFirstResponseDue, .slaResolutionDue, .slaExtendedAt]

/-- The columns an operation may write, for those that leave the lifecycle alone. -/
def Op.columns : Op → Option (List Column)
  | .escalateTicket .. => some escalationColumns
  | .changeTicketPriority .. => some [.priority, .updatedAt]
  | .addTags .. => some [.tags, .updatedAt]
  | .softDelete .. => some [.isDeleted, .updatedAt]
  | .recordFirstResponse .. => some []
  | .autoAssignTicket .. | .autoAssignEmailTicket .. => some [.assignee, .updatedAt]
  | .saveSlaPolicy .. => some [.slaFirstResponseDue, .slaResolutionDue, .updatedAt]
  | _ => none

theorem Op.columns_neutral {columns : List Column} (h : op.columns = some columns) :
    Neutral columns := by
  cases op <;> simp only [Op.columns, Option.some.injEq, reduceCtorEq] at h <;>
    rw [← h] <;> decide

section Operations

variable {columns : List Column} (s : Session)
variable {t : Session}

theorem logSlaChange_edits (edits : Edits ws columns s t) (old : Ticket) :
    Edits ws columns s (logSlaChange old t) := by
  unfold logSlaChange
  split
  · exact edits
  · exact edits.log t.id _

variable (ws req) in
theorem initializeSla_edits :
    Edits ws [.slaPolicy, .slaFirstResponseDue, .slaResolutionDue, .updatedAt] s
      (initializeSla ws req s) := by
  unfold initializeSla
  split
  · exact .refl s
  · exact (Edits.refl s).save _ _ _ (List.Subset.refl _) fun _ => rfl

theorem autoAssignEmailTicket_edits (agent : Option ℕ) :
    Edits ws [.assignee, .updatedAt] s (autoAssignEmailTicket ws req agent s) := by
  unfold autoAssignEmailTicket
  split
  · exact ((Edits.refl s).save _ _ _ (List.Subset.refl _) fun _ => rfl).record _
  · exact .refl s

theorem maybeAutoAssign_edits (agent : Option ℕ) :
    Edits ws [.assignee, .updatedAt] s (maybeAutoAssign ws req agent s) := by
  unfold maybeAutoAssign
  split
  · exact .refl s
  split
  · exact autoAssignEmailTicket_edits s agent
  · exact .refl s

theorem autoAssignTicket_edits (agent : Option ℕ) :
    Edits ws [.assignee, .updatedAt] s (autoAssignTicket ws req agent s) := by
  unfold autoAssignTicket
  split
  · exact .refl s
  · exact ((Edits.refl s).save _ _ _ (List.Subset.refl _) fun _ => rfl).record _

theorem extendSlaOnEscalation_edits (now : Instant) :
    Edits ws [.slaPolicy, .slaFirstResponseDue, .slaResolutionDue, .slaExtendedAt, .updatedAt] s
      (extendSlaOnEscalation ws req now s) := by
  unfold extendSlaOnEscalation
  split
  · exact .refl s
  · apply logSlaChange_edits
    refine (Edits.refl s).save _ _ _ ?_ fun _ => rfl
    split <;> simp

theorem reassignEscalated_edits (reason : String) (assignee : Option ℕ) :
    Edits ws [.assignee, .assignedBy, .assignedAt] s (reassignEscalated req reason assignee s) := by
  unfold reassignEscalated
  split
  · exact .refl s
  · exact ((Edits.refl s).record _).modify _ fun _ => rfl

theorem escalateTicket_cases (success : escalateTicket ws req reason assignee queue s = .ok t) :
    ∃ escalated, Edits ws [.escalationCount, .escalatedAt, .updatedAt, .assignee, .assignedBy,
        .assignedAt, .queue] s escalated ∧
      t = (extendSlaOnEscalation ws req req.clock.service escalated).log .escalatedManual := by
  unfold escalateTicket at success
  dsimp only at success
  split at success
  · cases success
  rw [Except.ok.injEq] at success
  refine ⟨_, ?_, success.symm⟩
  refine ((reassignEscalated_edits s reason assignee).mono (by decide)).save _ _ _ ?_ fun _ => rfl
  cases assignee <;> cases queue <;> simp

theorem escalateTicket_edits (success : escalateTicket ws req reason assignee queue s = .ok t) :
    Edits ws escalationColumns s t := by
  obtain ⟨escalated, edits, rfl⟩ := escalateTicket_cases s success
  exact ((edits.mono (by decide)).trans
    ((extendSlaOnEscalation_edits escalated _).mono (by decide))).log _ _

theorem changeTicketPriority_edits (newPriority : Priority) :
    Edits ws [.priority, .updatedAt] s (changeTicketPriority ws req newPriority s) := by
  unfold changeTicketPriority
  split
  · exact .refl s
  · exact ((Edits.refl s).save _ _ _ (List.Subset.refl _) fun _ => rfl).log _ _

theorem addTags_edits (tags : List String) :
    Edits ws [.tags, .updatedAt] s (addTags ws req tags s) :=
  (Edits.refl s).save _ _ _ (List.Subset.refl _) fun _ => rfl

theorem softDelete_edits : Edits ws [.isDeleted, .updatedAt] s (softDelete ws req s) :=
  (Edits.refl s).save _ _ _ (List.Subset.refl _) fun _ => rfl

theorem recordFirstResponse_edits : Edits ws [] s (recordFirstResponse req s) := by
  unfold recordFirstResponse
  split
  · exact .refl s
  split
  · exact .refl s
  · exact ((Edits.refl s).respond _ _).log _ _

theorem applyPolicyToTicket_edits (policy : SLAPolicy) :
    Edits ws [.slaFirstResponseDue, .slaResolutionDue, .updatedAt] s
      (applyPolicyToTicket ws req policy s) := by
  unfold applyPolicyToTicket
  dsimp only
  apply logSlaChange_edits
  exact (Edits.refl s).save _ _ _ (List.Subset.refl _) fun _ => rfl

theorem performAction_edits (clock : Clock) (now : Instant) (rule : EscalationRule) :
    Edits ws [.assignee, .assignedAt, .priority, .updatedAt] s
      (performAction ws clock now rule s) := by
  unfold performAction
  split
  · split
    · exact .refl s
    · exact (Edits.refl s).save _ _ _ (by decide) fun _ => rfl
  · exact .refl s
  · split
    · exact .refl s
    · exact (Edits.refl s).save _ _ _ (by decide) fun _ => rfl

variable (ws) in
theorem flagBreaches_edits (clock : Clock) (policy : SLAPolicy) (now : Instant) :
    Edits ws [.slaResponseBreached, .slaResolutionBreached, .updatedAt] s
      (flagBreaches ws clock policy now s) :=
  flagBreaches_rule (P := fun _ => Edits ws _ s) s (.refl s)
    (fun _ _ _ _ hsubset => (Edits.refl s).save _ _ _ hsubset fun _ => rfl) fun _ h => h.log _ _

end Operations

/-! ## Carried properties -/

/-- A property of stores that loads into one of sessions, which edits confined to some
columns keep. -/
structure Carried (ws : Workspace) (columns : List Column) (J : Db → Prop)
    (I : Session → Prop) : Prop where
  load : ∀ {db id ticket}, J db → db.tickets id = some ticket → I { db, id, ticket }
  store : ∀ {s}, I s → J s.db
  edits : ∀ {s t}, Edits ws columns s t → I s → I t

namespace Carried

variable {columns : List Column} {J : Db → Prop} {I : Session → Prop} {db after : Db}

theorem onTicket (carried : Carried ws columns J I) {work : Session → Except String Session}
    (hwork : ∀ s t, I s → work s = .ok t → I t) (holds : J db)
    (success : db.onTicket id work = .ok after) : J after := by
  obtain ⟨ticket, t, hticket, hok, rfl⟩ := onTicket_eq_ok.mp success
  exact carried.store (hwork _ t (carried.load holds hticket) hok)

theorem onTicket_ok (carried : Carried ws columns J I) (hwork : ∀ s, I s → I (work s))
    (holds : J db) (success : db.onTicket id (fun s => .ok (work s)) = .ok after) : J after := by
  refine carried.onTicket ?_ holds success
  intro s t hs hok
  rw [← Except.ok.inj hok]
  exact hwork s hs

theorem withTicket (carried : Carried ws columns J I) (id : ℕ) (hwork : ∀ s, I s → I (work s))
    (holds : J db) : J (db.withTicket id work) := by
  unfold Db.withTicket
  split
  · exact holds
  · rename_i ticket hticket
    exact carried.store (hwork _ (carried.load holds hticket))

/-- An operation that only edits keeps whatever edits of its columns keep. -/
theorem attempt (hcolumns : op.columns = some columns) (carried : Carried ws columns J I)
    (holds : J db) (success : attempt ws req op db = .ok after) : J after := by
  cases op <;> simp only [Op.columns, Option.some.injEq, reduceCtorEq] at hcolumns <;>
    subst hcolumns
  case escalateTicket =>
    exact carried.onTicket (fun s _ hs hok => carried.edits (escalateTicket_edits s hok) hs)
      holds success
  case changeTicketPriority =>
    exact carried.onTicket_ok (fun s => carried.edits (changeTicketPriority_edits s _)) holds success
  case addTags => exact carried.onTicket_ok (fun s => carried.edits (addTags_edits s _)) holds success
  case softDelete =>
    exact carried.onTicket_ok (fun s => carried.edits (softDelete_edits s)) holds success
  case recordFirstResponse =>
    exact carried.onTicket_ok (fun s => carried.edits (recordFirstResponse_edits s)) holds success
  case autoAssignTicket =>
    exact carried.onTicket_ok (fun s => carried.edits (autoAssignTicket_edits s _)) holds success
  case autoAssignEmailTicket =>
    exact carried.onTicket_ok (fun s => carried.edits (autoAssignEmailTicket_edits s _)) holds success
  case saveSlaPolicy policy =>
    dsimp only [Tickets.attempt] at success
    split at success
    · rw [← Except.ok.inj success]
      refine List.foldlRecOn _ _ holds ?_
      intro db holds id _
      exact carried.withTicket id (fun s => carried.edits (applyPolicyToTicket_edits s policy)) holds
    · cases success

def scanColumns : List Column :=
  [.slaResponseBreached, .slaResolutionBreached, .assignee, .assignedAt, .priority, .updatedAt]

theorem checkTicketSla (carried : Carried ws scanColumns J I)
    (hfire : ∀ s rule, I s → I (s.fireRule rule)) (clock : Clock) (policy : SLAPolicy)
    (now : Instant) (s : Session) (holds : I s) : I (checkTicketSla ws clock policy now s) := by
  refine List.foldlRecOn _ _ (carried.edits ((flagBreaches_edits _ s clock policy now).mono
    (by decide)) holds) ?_
  intro s holds rule _
  unfold checkRule
  split
  · exact holds
  split
  · exact hfire _ rule (carried.edits ((performAction_edits s clock now rule).mono (by decide)) holds)
  · exact holds

theorem checkTenantSla (carried : Carried ws scanColumns J I)
    (hfire : ∀ s rule, I s → I (s.fireRule rule)) (clocks : ℕ → Clock) (now : Instant)
    (holds : J db) : J (checkTenantSla ws clocks now db) :=
  List.foldlRecOn _ _ holds fun _ hpolicy policy _ =>
    List.foldlRecOn _ _ hpolicy fun _ hticket id _ =>
      carried.withTicket id (carried.checkTicketSla hfire (clocks id) policy now) hticket

end Carried

theorem scanColumns_neutral : Neutral Carried.scanColumns := by decide

/-! ## Creation -/

def Ticket.lifecycle (ticket : Ticket) :
    TicketStatus × Option Instant × Option Instant × Option Instant × Option ℕ :=
  (ticket.status, ticket.resolvedAt, ticket.closedAt, ticket.solvedAt, ticket.autoCloseTaskId)

def initialStatus (ws : Workspace) : Op → Option TicketStatus
  | .createTicket _ data => data.status.or (ws.firstStatus fun status => status.isDefault)
  | .createTicketFromEmail _ overrides _ =>
    (defaultStatus ws).map fun status => overrides.status.getD status
  | .splitTicket .. => defaultStatus ws
  | _ => none

def Op.isCreation : Op → Bool
  | .createTicket .. | .createTicketFromEmail .. | .splitTicket .. => true
  | _ => false

def creationColumns : List Column :=
  [.slaPolicy, .slaFirstResponseDue, .slaResolutionDue, .assignee, .updatedAt]

/-- A ticket at the start of its life, in the status given and without a deadline. -/
structure Newborn (req : Request) (ticket : Ticket) (status : TicketStatus) : Prop where
  lifecycle : ticket.lifecycle = (status, none, none, none, none)
  createdAt : ticket.createdAt = req.clock.autoNow
  slaPolicy : ticket.slaPolicy = none

theorem create_cases {db : Db} {ticket : Ticket} {s : Session}
    (created : db.create id ticket = .ok s) :
    db.tickets id = none ∧ s = { db := db.insertTicket id ticket, id, ticket } := by
  unfold Db.create at created
  split at created
  · cases created
  · rename_i hfresh
    exact ⟨by simpa using hfresh, (Except.ok.inj created).symm⟩

def createdPriority (db : Db) : Op → Option Priority
  | .createTicket _ data => some data.priority
  | .createTicketFromEmail _ overrides _ => some overrides.priority
  | .splitTicket source _ data =>
    (db.tickets source).map fun ticket => data.priority.getD ticket.priority
  | _ => none

/-- A creation inserts a newborn row under a fresh key, starts its clock and goes on with
edits. -/
theorem creation_starts {db after : Db} (hcreation : op.isCreation = true)
    (success : attempt ws req op db = .ok after) :
    ∃ id ticket status t, initialStatus ws op = some status ∧
      createdPriority db op = some ticket.priority ∧ Newborn req ticket status ∧
      db.tickets id = none ∧
      Edits ws [.assignee, .updatedAt]
        (initializeSla ws req { db := db.insertTicket id ticket, id, ticket }) t ∧
      t.db = after := by
  cases op <;> simp only [Op.isCreation, Bool.false_eq_true] at hcreation
  case createTicket creator data =>
    obtain ⟨s, hok, rfl⟩ := map_eq_ok.mp success
    unfold createTicket at hok
    split at hok
    · cases hok
    split at hok
    · cases hok
    · rename_i status hstatus
      obtain ⟨created, hcreated, rfl⟩ := map_eq_ok.mp hok
      obtain ⟨hfresh, rfl⟩ := create_cases hcreated
      exact ⟨_, _, status, _, hstatus, rfl, ⟨rfl, rfl, rfl⟩, hfresh, (Edits.refl _).log _ _, rfl⟩
  case createTicketFromEmail systemUser overrides agent =>
    obtain ⟨s, hok, rfl⟩ := map_eq_ok.mp success
    unfold createTicketFromEmail at hok
    obtain ⟨-, -, hok⟩ := bind_eq_ok.mp hok
    obtain ⟨-, -, hok⟩ := bind_eq_ok.mp hok
    split at hok
    · cases hok
    · rename_i status hstatus
      obtain ⟨created, hcreated, hok⟩ := bind_eq_ok.mp hok
      obtain ⟨hfresh, rfl⟩ := create_cases hcreated
      have hinit : initialStatus ws (.createTicketFromEmail systemUser overrides agent) =
          some (overrides.status.getD status) := by
        rw [initialStatus, hstatus]
        rfl
      split at hok <;> rw [← Except.ok.inj hok]
      · exact ⟨_, _, _, _, hinit, rfl, ⟨rfl, rfl, rfl⟩, hfresh, maybeAutoAssign_edits _ agent, rfl⟩
      · exact ⟨_, _, _, _, hinit, rfl, ⟨rfl, rfl, rfl⟩, hfresh, .refl _, rfl⟩
  case splitTicket source actor data =>
    obtain ⟨ticket, s, hsource, hok, rfl⟩ := onTicket_eq_ok.mp success
    unfold splitTicket at hok
    split at hok
    · cases hok
    split at hok
    · cases hok
    split at hok
    · cases hok
    · rename_i status hstatus
      obtain ⟨created, hcreated, rfl⟩ := map_eq_ok.mp hok
      obtain ⟨hfresh, rfl⟩ := create_cases hcreated
      exact ⟨_, _, status, _, hstatus, by rw [createdPriority, hsource]; rfl, ⟨rfl, rfl, rfl⟩,
        hfresh, ((Edits.refl _).log _ _).log _ _, rfl⟩

theorem creation_cases {db after : Db} (hcreation : op.isCreation = true)
    (success : attempt ws req op db = .ok after) :
    ∃ id ticket status t, initialStatus ws op = some status ∧ Newborn req ticket status ∧
      db.tickets id = none ∧
      Edits ws creationColumns { db := db.insertTicket id ticket, id, ticket } t ∧
      t.db = after := by
  obtain ⟨id, ticket, status, t, hinitial, -, newborn, hfresh, edits, hafter⟩ :=
    creation_starts hcreation success
  exact ⟨id, ticket, status, t, hinitial, newborn, hfresh,
    ((initializeSla_edits _ _ _).mono (by decide)).trans (edits.mono (by decide)), hafter⟩

end Kanzan.Tickets

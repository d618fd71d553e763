import Kanzan.Tickets.Interleaved

/-!
# What a `PATCH` stores

A single `PATCH` that nothing comes in between of.  The fields that it submits are stored as
submitted, but for a status from which the assignment in the same body moves the ticket on, and for
a company that is taken from the contact.
-/

namespace Kanzan.Tickets

open Sla Support

/--
The row that a `PATCH` leads to, in the columns that it submits: an empty company is filled in, and
an assignment moves the ticket on from the default status.
-/
def Patch.outcome (site : Site) (patch : Patch) (loaded : TicketRow) : TicketRow :=
  let wish := (Demand.wish site (.patch patch) loaded).fillCompany site
  if (patch.newAssignee loaded.ticket).isSome then
    wish.modify fun ticket =>
      { ticket with status := (autoTransition site.ws ticket.status).getD ticket.status }
  else wish

def Settles (key : Key) (wish : TicketRow) (routine : Routine TicketRow) : Prop :=
  routine.Pending (fun statement => statement.lists key) (fun _ => True)
    fun statement => statement.Puts key wish

variable {routine : Routine TicketRow} {status : TicketStatus}

section Settling

variable {site : Site} {caller : Caller} {loaded wish inst : TicketRow} {key : Key} {patch : Patch}

theorem Delivers.settles (delivers : Delivers key loaded wish routine) {outcome : TicketRow}
    (hsame : key.Same wish outcome) : Settles key outcome routine :=
  Program.Pending.mono delivers (fun _ _ => trivial) fun _ hputs => hputs.trans hsame

theorem Settles.after {rest : TicketRow → Routine TicketRow} {Returns : TicketRow → Prop}
    {Writes : Statement → Prop} (meets : routine.Meets (fun _ => True) Writes Returns)
    (hrest : ∀ saved, Returns saved → Settles key wish (rest saved)) :
    Settles key wish (routine.bind rest) :=
  Program.Pending.bind_right
    (meets.mono (fun _ h => h) (fun _ _ _ => trivial) fun _ h => h) hrest

theorem fillCompany_modify_company (inst : TicketRow) (edit : Ticket → Ticket) :
    ((inst.modify edit).fillCompany site).company = (inst.fillCompany site).company := by
  unfold TicketRow.modify TicketRow.fillCompany
  dsimp only
  split <;> simp_all

theorem Patch.outcome_same (hstatus : key ≠ .column .status) :
    key.Same ((Demand.wish site (.patch patch) loaded).fillCompany site)
      (patch.outcome site loaded) := by
  unfold Patch.outcome
  dsimp only
  split
  · cases key with
    | column c => cases c <;> first | rfl | exact absurd rfl hstatus
    | _ => rfl
  · exact key.same_refl _

theorem Patch.outcome_status {status : TicketStatus} (hbody : patch.status = some status) :
    (patch.outcome site loaded).ticket.status =
      if (patch.newAssignee loaded.ticket).isSome then
        (autoTransition site.ws status).getD status
      else status := by
  have hwish : ((Demand.wish site (.patch patch) loaded).fillCompany site).ticket.status =
      status := by
    simp [Demand.wish, TicketRow.modify, hbody]
  unfold Patch.outcome
  dsimp only
  split
  · rw [TicketRow.modify, hwish]
  · exact hwish

/-! ## The stages of `perform_update` -/

theorem statusStage_returns {updated : TicketRow} (hbody : patch.status = some status)
    (hupdated : updated.ticket.status = loaded.ticket.status) :
    (whenSome (transitionStatus site caller) (patch.newStatus loaded.ticket) updated).Meets
      (fun _ => True) (fun _ => True) fun saved => saved.ticket.status = status := by
  by_cases hsame : status = loaded.ticket.status
  · have hnone : patch.newStatus loaded.ticket = none := by
      simp [Patch.newStatus, hbody, Option.filter, hsame]
    rw [hnone]
    exact .done (hupdated.trans hsame.symm)
  · have hmoves : patch.newStatus loaded.ticket = some status := by
      rw [Patch.newStatus, hbody, Option.filter_some, if_pos (decide_eq_true hsame)]
    have hother : updated.ticket.status ≠ status := fun h => hsame (h.symm.trans hupdated)
    rw [hmoves]
    have hwish : (updated.modify fun ticket => { ticket with status }).ticket.status = status := rfl
    exact (transitionStatus_delivers site caller loaded hother hwish).2

theorem assignTo_settles_status (loaded : TicketRow) {assignee : ℕ} {target : TicketStatus}
    (htarget : autoTransition site.ws inst.ticket.status = some target)
    (hwish : wish.ticket.status = target) :
    Settles (.column .status) wish (assignTo site caller assignee inst) := by
  unfold assignTo
  split
  · exact .fail _
  · have delivers : Delivers (.column .status) loaded wish
        (saveTicketDraft site caller (assignDraft site.ws caller.req assignee inst.ticket)
          inst) := by
      apply saveTicketDraft_delivers
      · simp [assignDraft, htarget]
      · exact not_restamped_status False
      · simp [Column.Same, assignDraft, htarget, hwish]
    exact delivers.settles (Key.same_refl _ wish)

theorem performUpdate_settles_status (hbody : patch.status = some status) :
    Settles (.column .status) (patch.outcome site loaded)
      (performUpdate site caller patch loaded) := by
  have houtcome := @Patch.outcome_status site loaded patch status hbody
  by_cases hmoves : (patch.newAssignee loaded.ticket).isSome ∧
      (autoTransition site.ws status).isSome
  · obtain ⟨assignee, hassignee⟩ := Option.isSome_iff_exists.mp hmoves.1
    obtain ⟨target, htarget⟩ := Option.isSome_iff_exists.mp hmoves.2
    rw [if_pos hmoves.1, htarget, Option.getD_some] at houtcome
    have hsubmits : patch.submits (.column .status) = true := by simp [Patch.submits, hbody]
    have plain : Plain (.column .status) := Patch.plain_of_submits hsubmits
    refine Program.Pending.bind_right (Program.meets_ofExcept fun _ _ => trivial)
      fun _ (_ : True) => ?_
    refine Settles.after (saveKeys_returns _ _) fun updated retains => ?_
    have hupdated := retains (.column .status) (by decide) plain.restamped
    refine Settles.after (statusStage_returns hbody hupdated) fun moved hmoved => ?_
    refine Settles.after ((priorityStage_within site caller plain (by decide)
      (patch.newPriority loaded.ticket) moved).skips (by decide)) fun prior hprior => ?_
    rw [hassignee]
    refine assignTo_settles_status loaded ?_ houtcome
    rw [Eq.trans hprior hmoved, htarget]
  · have hstays : (patch.newAssignee loaded.ticket).isSome → autoTransition site.ws status = none :=
      fun hassigns => Option.not_isSome_iff_eq_none.mp fun h => hmoves ⟨hassigns, h⟩
    refine (performUpdate_delivers_status hbody hstays).settles ?_
    refine Eq.trans (show _ = status by simp [Demand.wish, TicketRow.modify, hbody]) ?_
    rw [houtcome]
    split
    · rename_i hassigns
      rw [hstays hassigns, Option.getD_none]
    · rfl

/-- Every field that a `PATCH` submits is settled by its last update, a null assignee apart. -/
theorem performUpdate_settles (hsubmits : patch.submits key = true)
    (hassignee : key = .column .assignee → patch.assignee ≠ some none) :
    Settles key (patch.outcome site loaded) (performUpdate site caller patch loaded) := by
  by_cases hstatus : key = .column .status
  · subst hstatus
    obtain ⟨status, hbody⟩ := Option.isSome_iff_exists.mp hsubmits
    exact performUpdate_settles_status hbody
  have houtcome : key.Same ((Demand.wish site (.patch patch) loaded).fillCompany site)
      (patch.outcome site loaded) := Patch.outcome_same hstatus
  by_cases hpriority : key = .column .priority
  · subst hpriority
    refine (performUpdate_delivers_priority hsubmits).settles ?_
    exact Key.Same.trans (fillCompany_same site _ (by decide)).symm houtcome
  by_cases hassigns : key = .column .assignee
  · subst hassigns
    have hnull : patch.assignee = some none → loaded.ticket.assignee = none :=
      fun h => absurd h (hassignee rfl)
    refine (performUpdate_delivers_assignee hnull hsubmits).settles ?_
    exact Key.Same.trans (fillCompany_same site _ (by decide)).symm houtcome
  · refine (performUpdate_delivers_simple hsubmits hstatus hpriority hassigns).settles ?_
    refine Key.Same.trans ?_ houtcome
    by_cases hcompany : key = .company
    · subst hcompany
      exact (fillCompany_modify_company (patch.apply loaded) _).symm
    · have happly : key.Same (patch.apply loaded) (Demand.wish site (.patch patch) loaded) :=
        Patch.apply_wish hstatus hpriority hassigns
      exact ((fillCompany_same site _ hcompany).trans happly).trans
        (fillCompany_same site _ hcompany).symm

end Settling

/-- A `PATCH` that returns has stored what it submits, as its outcome says. -/
theorem performUpdate_stores (site : Site) (caller : Caller) (patch : Patch) (store : TicketStore)
    {saved : TicketRow} {after : TicketStore}
    (returns : (performUpdate site caller patch store.row).alone Statement.execute store =
      (.ok saved, after)) {key : Key} (hsubmits : patch.submits key = true)
    (hassignee : key = .column .assignee → patch.assignee ≠ some none) :
    key.Same after.row (patch.outcome site store.row) := by
  let table := (traffic site fun _ => { caller with demand := .patch patch }).toTable
  have settles : (performUpdate site caller patch store.row).Pending
      (fun statement => table.lists statement key) (fun _ => True)
      (fun statement => table.puts statement key (patch.outcome site store.row)) :=
    performUpdate_settles hsubmits hassignee
  exact Table.row_of_pending settles returns

/-! ## A submitted status that does not stay -/

/-- A ticket in progress that nobody is assigned to. -/
def startedStore : TicketStore where
  id := 1
  row := { ticket :=
    { status := { pk := 1, name := "In Progress", slug := "in-progress", order := 20 }
      createdBy := 1
      createdAt := 0
      updatedAt := 0 } }

/-- A request of the first member, at one moment. -/
def firstMember : Caller := { req := { clock := ⟨1, 1, 1, 1⟩, actor := some 1 } }

/-- Back to the default status, and to the second member. -/
def reopenAndAssign : Patch where
  status := some { pk := 0, name := "Open", slug := "open", order := 10, isDefault := true }
  assignee := some (some 2)

/-- A new subject and the second member. -/
def renameAndAssign : Patch where
  assignee := some (some 2)
  fields := fun field => if field = .subject then some (some "Printer") else none

/-- Both fields of the body are stored. -/
theorem performUpdate_stores_renamed :
    ∃ saved after, (performUpdate seededSite firstMember renameAndAssign startedStore.row).alone
        Statement.execute startedStore = (.ok saved, after) ∧
      after.row.fields .subject = some "Printer" ∧ after.row.ticket.assignee = some 2 := by
  refine ⟨_, _, rfl, ?_, ?_⟩
  · have hkey : Key.field .subject = .column .assignee → renameAndAssign.assignee ≠ some none := by
      decide
    exact performUpdate_stores seededSite firstMember renameAndAssign startedStore rfl rfl hkey
  · have hsubmits : renameAndAssign.submits (.column .assignee) = true := rfl
    have hnull : renameAndAssign.assignee ≠ some none := by decide
    exact performUpdate_stores seededSite firstMember renameAndAssign startedStore rfl hsubmits
      fun _ => hnull

/-- The assignment moves the ticket on from the status in the same body. -/
theorem not_performUpdate_stores_wish :
    ¬ ∀ site caller patch store saved after,
      (performUpdate site caller patch store.row).alone Statement.execute store =
        (.ok saved, after) →
      ∀ key, patch.submits key = true →
        key.Same after.row (Demand.wish site (.patch patch) store.row) := by
  intro hall
  have hstatus := hall seededSite firstMember reopenAndAssign startedStore _ _ rfl
    (.column .status) rfl
  exact absurd (congrArg TicketStatus.pk hstatus) (by decide)

end Kanzan.Tickets

import Kanzan.Tickets.ConcurrentLaws

/-!
# Requests on one ticket in any order of their statements

Saves list columns that their request never submitted, a `PATCH` lists all of them.  What the
requests submit arrives and stays in the row, and no column goes back to an older value, as
long as no save puts an outdated value over a column that another request submits.
-/

namespace Kanzan.Tickets

open Sla Support

def traffic (site : Site) (visits : ℕ → Visit) : Traffic TicketStore Statement TicketRow Key where
  row := TicketStore.row
  apply := Statement.execute
  lists := Statement.lists
  puts := Statement.Puts
  same := Key.Same
  equivalence := Key.same_equivalence
  same_of_puts := by
    intro statement key value store hlists hputs
    cases statement with
    | update keys inst => exact (TicketRow.persist_of_mem inst store.row hlists).trans hputs
    | openPause now => exact hlists.elim
    | closePause pause now => exact hlists.elim
  same_of_not_lists := by
    intro statement key store hlists
    cases statement with
    | update keys inst => exact TicketRow.persist_of_notMem inst store.row hlists
    | openPause now => exact key.same_refl store.row
    | closePause pause now => exact key.same_refl store.row
  serve := fun request loaded => ((visits request).serve site loaded).bind fun _ => .done ⟨⟩
  submits := fun request loaded key => (visits request).demand.submits site loaded key = true
  wish := fun request loaded => (visits request).demand.wish site loaded
  derives := fun request loaded key => key ∈ (visits request).demand.derived site loaded
  clear := fun request loaded => (visits request).demand.Clear site loaded
  leader := .column .status
  trails := fun key => key ∈ receiverDerived

variable {body patch : Patch} {old : Ticket} {status : TicketStatus}

section Demands

variable {site : Site} {caller : Caller} {loaded inst : TicketRow} {demand : Demand}
variable {steady : Prop} {key : Key}

/-- The columns that a request may change. -/
def Demand.Loose (site : Site) (demand : Demand) (loaded : TicketRow) (steady : Prop) (key : Key) :
    Prop :=
  demand.submits site loaded key = true ∨ key ∈ demand.derived site loaded ∨
    Restamped steady key

theorem Demand.latitude (hsteady : steady → demand.submits site loaded (.column .status) = false ∧
    .column .status ∉ demand.derived site loaded) :
    Latitude (demand.Loose site loaded steady) steady where
  restamped := fun _ h => .inr (.inr h)
  status := by
    rintro hs (h | h | h)
    · rw [(hsteady hs).1] at h
      cases h
    · exact (hsteady hs).2 h
    · exact not_restamped_status steady h

theorem Patch.submits_not_trails (h : patch.submits key = true) : key ∉ receiverDerived := by
  intro hkey
  simp only [receiverDerived, List.mem_cons, List.not_mem_nil, or_false] at hkey
  rcases hkey with rfl | rfl | rfl | rfl | rfl | rfl <;> cases h

theorem Demand.submits_not_trails (h : demand.submits site loaded key = true) :
    key ∉ receiverDerived := by
  intro hkey
  simp only [receiverDerived, List.mem_cons, List.not_mem_nil, or_false] at hkey
  cases demand <;> rcases hkey with rfl | rfl | rfl | rfl | rfl | rfl <;>
    simp [Demand.submits, Patch.submits] at h

theorem Demand.updatedAt_mem : .column .updatedAt ∈ demand.derived site loaded :=
  List.mem_cons_self

/-- Fields that a `PATCH` does not supply stay as they are. -/
theorem Patch.apply_same {patch : Patch} (h : patch.submits key = false) :
    key.Same (patch.apply loaded) loaded := by
  cases key with
  | column c => cases c <;> simp_all [Patch.submits, Patch.apply, Key.Same, Column.Same]
  | _ => simp_all [Patch.submits, Patch.apply, Key.Same]

theorem Patch.apply_wish (hstatus : key ≠ .column .status) (hpriority : key ≠ .column .priority)
    (hassignee : key ≠ .column .assignee) :
    key.Same (patch.apply loaded) (Demand.wish site (.patch patch) loaded) := by
  cases key with
  | column c =>
    cases c <;> first
      | rfl
      | exact absurd rfl hstatus
      | exact absurd rfl hpriority
      | exact absurd rfl hassignee
  | _ => rfl

/-! ## What requests carry along -/

theorem Patch.status_of_newStatus (h : patch.newStatus old = some status) :
    patch.status = some status ∧ old.status ≠ status := by
  obtain ⟨hstatus, hne⟩ := Option.filter_eq_some_iff.mp h
  exact ⟨hstatus, fun hequal => of_decide_eq_true hne hequal.symm⟩

theorem Patch.priority_of_newPriority {priority : Priority}
    (h : patch.newPriority old = some priority) :
    patch.priority = some priority ∧ old.priority ≠ priority := by
  obtain ⟨hpriority, hne⟩ := Option.filter_eq_some_iff.mp h
  exact ⟨hpriority, fun hequal => of_decide_eq_true hne hequal.symm⟩

theorem Patch.assignee_of_newAssignee {assignee : ℕ} (h : patch.newAssignee old = some assignee) :
    patch.assignee = some (some assignee) := by
  have hassignee := (Option.filter_eq_some_iff.mp h).1
  cases hpatch : patch.assignee with
  | none =>
    rw [hpatch] at hassignee
    cases hassignee
  | some value =>
    rw [hpatch] at hassignee
    exact congrArg some hassignee

theorem Demand.statusLoose (hsubmits : demand.submits site loaded (.column .status) = true)
    (hderived : statusDerived ⊆ demand.derived site loaded) :
    StatusLoose (demand.Loose site loaded steady) :=
  ⟨.inl hsubmits, fun _ hkey => .inr (.inl (hderived hkey))⟩

theorem performUpdate_carries
    (hsteady : steady → (Demand.patch body).submits site loaded (.column .status) = false ∧
      .column .status ∉ (Demand.patch body).derived site loaded) :
    Carries loaded ((Demand.patch body).Loose site loaded steady) steady
      (performUpdate site caller body loaded) := by
  have latitude := Demand.latitude hsteady
  have hderived : ∀ {key}, key ∈ (Demand.patch body).derived site loaded →
      (Demand.patch body).Loose site loaded steady key := fun h => .inr (.inl h)
  refine Program.Meets.bind (Program.meets_ofExcept fun _ _ => trivial) fun _ (_ : True) => ?_
  -- the serializer's save lists every column, as supplied or as loaded
  refine Carries.bind (saveKeys_carries latitude ?_ ?_) fun updated held => ?_
  · intro key _ hkey
    apply Patch.apply_same
    exact Bool.eq_false_iff.mpr fun hsubmits => hkey (.inl hsubmits)
  · intro _ hkey
    have hsubmits : body.submits .company = false :=
      Bool.eq_false_iff.mpr fun hsubmits => hkey (.inl hsubmits)
    have hlacks : (body.apply loaded).lacksCompany site = false := by
      rw [Bool.eq_false_iff]
      intro hlacks
      exact hkey (hderived (by simp [Demand.derived, hlacks]))
    exact (fillCompany_company hlacks).trans (@Patch.apply_same _ .company _ hsubmits)
  refine Carries.bind (whenSome_within held fun status hstatus => ?_).carries
    fun updated held => ?_
  · apply transitionStatus_within latitude held
    intro _
    apply Demand.statusLoose
    · simp [Demand.submits, Patch.submits, (Patch.status_of_newStatus hstatus).1]
    · intro key hkey
      simp [Demand.derived, hstatus, hkey]
  refine Carries.bind (whenSome_within held fun priority hpriority => ?_).carries
    fun updated held => ?_
  · apply changePriority_within latitude held
    left
    simp [Demand.submits, Patch.submits, (Patch.priority_of_newPriority hpriority).1]
  refine (whenSome_within held fun assignee hassignee => ?_).carries
  have hderivedAs : assignmentDerived site (body.status.getD loaded.ticket.status) ⊆
      (Demand.patch body).derived site loaded := by
    intro key hkey
    simp [Demand.derived, hassignee, hkey]
  apply assignTo_within latitude held
  · intro c hc
    simp only [List.mem_cons, List.not_mem_nil, or_false] at hc
    rcases hc with rfl | rfl | rfl
    · left
      simp [Demand.submits, Patch.submits, Patch.assignee_of_newAssignee hassignee]
    · exact hderived (hderivedAs (by simp [assignmentDerived]))
    · exact hderived (hderivedAs (by simp [assignmentDerived]))
  · intro htransition
    by_contra hkey
    -- the status is neither submitted nor derived, so it is the loaded one
    have hnone : body.status = none := by
      rw [← Option.not_isSome_iff_eq_none]
      intro hsome
      exact hkey (.inl hsome)
    have hstatus : updated.ticket.status = loaded.ticket.status :=
      held (.column .status) (by decide) hkey
    rw [hstatus] at htransition
    rw [hnone, Option.getD_none] at hderivedAs
    exact hkey (hderived (hderivedAs (by simp [assignmentDerived, htransition])))

theorem reopenTarget_congr (site : Site) {a b : Ticket} (hstatus : a.status = b.status)
    (hpreWait : a.preWaitStatus = b.preWaitStatus) : reopenTarget site a = reopenTarget site b := by
  unfold reopenTarget resumeTarget usablePreWait
  rw [hstatus, hpreWait]

/-- A request writes into the columns that it may not change what it has loaded. -/
theorem Visit.serve_carries (site : Site) (visit : Visit) (loaded : TicketRow)
    (hsteady : steady → visit.demand.submits site loaded (.column .status) = false ∧
      .column .status ∉ visit.demand.derived site loaded) :
    Carries loaded (visit.demand.Loose site loaded steady) steady (visit.serve site loaded) := by
  obtain ⟨caller, demand⟩ := visit
  have latitude := Demand.latitude hsteady
  have held := Held.refl loaded (demand.Loose site loaded steady)
  have hderived : ∀ {key}, key ∈ demand.derived site loaded →
      demand.Loose site loaded steady key := fun h => .inr (.inl h)
  cases demand with
  | patch body => exact performUpdate_carries hsteady
  | assign assignee =>
    apply Within.carries
    apply assignTo_within latitude held
    · intro c hc
      simp only [List.mem_cons, List.not_mem_nil, or_false] at hc
      rcases hc with rfl | rfl | rfl
      · left
        simp [Demand.submits]
      · exact hderived (by simp [Demand.derived, assignmentDerived])
      · exact hderived (by simp [Demand.derived, assignmentDerived])
    · intro htransition
      exact hderived (by simp [Demand.derived, assignmentDerived, htransition])
  | changeStatus newStatus =>
    apply Within.carries
    apply transitionStatus_within latitude held
    intro hmoves
    apply Demand.statusLoose
    · simp [Demand.submits]
    · intro key hkey
      simp [Demand.derived, hkey, hmoves.symm]
  | escalate assignee queue =>
    apply Within.carries
    apply escalate_within latitude held
    · intro c hc
      simp only [escalatedColumns, List.mem_append] at hc
      rcases hc with (hc | hc) | hc
      · refine hderived ?_
        simp only [List.mem_cons, List.not_mem_nil, or_false] at hc
        rcases hc with rfl | rfl <;> simp [Demand.derived]
      · split at hc
        · rename_i hassignee
          simp only [List.mem_cons, List.not_mem_nil, or_false] at hc
          rcases hc with rfl | rfl | rfl
          · left
            simp [Demand.submits, hassignee]
          · exact hderived (by simp [Demand.derived, hassignee])
          · exact hderived (by simp [Demand.derived, hassignee])
        · cases hc
      · split at hc
        · rename_i hqueue
          obtain rfl := List.mem_singleton.mp hc
          left
          simp [Demand.submits, hqueue]
        · cases hc
    · intro saved held hpolicy c hc
      have hpriority : saved.ticket.priority = loaded.ticket.priority := by
        refine held (.column .priority) (by decide) ?_
        rintro (h | h | h)
        · simp [Demand.submits] at h
        · simp [Demand.derived] at h
        · exact not_restamped (by decide) (by decide) steady h
      rw [hpriority] at hpolicy
      refine hderived ?_
      simp only [extensionColumns, List.mem_cons, List.not_mem_nil, or_false] at hc
      rcases hc with rfl | rfl | rfl | rfl <;> simp [Demand.derived, hpolicy]
  | addTag tags =>
    apply Within.carries
    apply addTag_within latitude held
    left
    simp [Demand.submits]
  | reply inbound =>
    apply Within.carries
    apply addReply_within latitude held
    · intro hbody hcustomer c hc
      refine hderived ?_
      simp only [clockColumns, List.mem_cons, List.not_mem_nil, or_false] at hc
      rcases hc with rfl | rfl | rfl <;> simp [Demand.derived, hbody, hcustomer]
    · intro hbody resumed held hreopen
      by_cases hloaded : (reopenTarget site loaded.ticket).isSome
      · apply Demand.statusLoose
        · simp [Demand.submits, hbody, hloaded]
        · intro key hkey
          simp [Demand.derived, hbody, hloaded, hkey]
      · have hkept : ∀ c ∈ ([.status, .preWaitStatus] : List Column),
            c.Same resumed.ticket loaded.ticket := by
          intro c hc
          refine held (.column c) (by simp) ?_
          simp only [List.mem_cons, List.not_mem_nil, or_false] at hc
          rintro (h | h | h)
          · simp [Demand.submits, hloaded] at h
          · rcases hc with rfl | rfl <;> simp [Demand.derived, hbody, hloaded] at h
          · rcases hc with rfl | rfl <;> exact not_restamped (by decide) (by decide) steady h
        have htarget := reopenTarget_congr site (hkept .status (by decide))
          (hkept .preWaitStatus (by decide))
        rw [htarget] at hreopen
        exact absurd hreopen hloaded

/-! ## What requests deliver -/

/-- A column that no service of a `PATCH` derives. -/
structure Plain (key : Key) : Prop where
  restamped : ¬Restamped False key
  status : key ∉ statusDerived
  assignment : key ≠ .column .assignedBy ∧ key ≠ .column .assignedAt

theorem Patch.plain_of_submits (h : patch.submits key = true) : Plain key where
  restamped := by
    apply not_restamped
    · rintro rfl
      cases h
    · exact Patch.submits_not_trails h
  status := by
    intro hkey
    simp only [statusDerived, List.mem_cons, List.not_mem_nil, or_false] at hkey
    rcases hkey with rfl | rfl | rfl | rfl | rfl | rfl <;> cases h
  assignment := by
    constructor <;> rintro rfl <;> cases h

theorem latitude_plain (plain : Plain key) : Latitude (· ≠ key) False :=
  latitude_ne plain.restamped

theorem statusStage_within (site : Site) (caller : Caller) (plain : Plain key) (hkey : key ≠ .column .status)
    (value : Option TicketStatus) (inst : TicketRow) :
    Within inst (· ≠ key) False (whenSome (transitionStatus site caller) value inst) := by
  refine whenSome_within (.refl _ _) fun status _ => ?_
  refine transitionStatus_within (latitude_plain plain) (.refl _ _) fun _ => ⟨hkey.symm, ?_⟩
  rintro other hother rfl
  exact plain.status hother

theorem priorityStage_within (site : Site) (caller : Caller) (plain : Plain key) (hkey : key ≠ .column .priority)
    (value : Option Priority) (inst : TicketRow) :
    Within inst (· ≠ key) False (whenSome (changePriority site caller) value inst) :=
  whenSome_within (.refl _ _) fun _ _ =>
    changePriority_within (latitude_plain plain) (.refl _ _) hkey.symm

theorem assigneeStage_within (plain : Plain key) (hkey : key ≠ .column .assignee)
    {value : Option ℕ} {inst : TicketRow} (hstatus : key = .column .status → value.isSome →
      autoTransition site.ws inst.ticket.status = none) :
    Within inst (· ≠ key) False (whenSome (assignTo site caller) value inst) := by
  refine whenSome_within (.refl _ _) fun assignee hassignee => ?_
  apply assignTo_within (latitude_plain plain) (.refl _ _)
  · intro c hc
    simp only [List.mem_cons, List.not_mem_nil, or_false] at hc
    rcases hc with rfl | rfl | rfl
    · exact hkey.symm
    · exact plain.assignment.1.symm
    · exact plain.assignment.2.symm
  · rintro htransition rfl
    rw [hstatus rfl (by rw [hassignee]; rfl)] at htransition
    cases htransition

theorem serializerSave_old (loaded : TicketRow) (plain : Plain key) (hcompany : key ≠ .company)
    (happly : key.Same (body.apply loaded) loaded) :
    (saveKeys site caller Key.all (body.apply loaded)).Meets (fun _ => True)
      (fun statement => statement.lists key → statement.Puts key loaded)
      (fun saved => key.Same saved loaded) := by
  refine (saveTicket_meets False site.recursionLimit Key.all (body.apply loaded)).mono
    (fun _ _ h => h.elim) ?_ ?_
  · intro statement hstatement hlists
    have hputs := (hstatement key hlists plain.restamped).2
    exact (hputs.trans (fillCompany_same site _ hcompany)).trans happly
  · intro saved retains
    exact (retains key hcompany plain.restamped).trans happly

theorem performUpdate_delivers_simple (hsubmits : body.submits key = true)
    (hstatus : key ≠ .column .status) (hpriority : key ≠ .column .priority)
    (hassignee : key ≠ .column .assignee) :
    Delivers key loaded ((body.apply loaded).fillCompany site)
      (performUpdate site caller body loaded) := by
  have plain : Plain key := Patch.plain_of_submits hsubmits
  refine Program.Pending.bind_right (Program.meets_ofExcept fun _ _ => trivial)
    fun _ (_ : True) => ?_
  refine Program.Pending.bind_left (saveKeys_delivers (Key.mem_all key) plain.restamped ?_)
    (saveKeys_returns _ _) fun updated _ => ?_
  · exact key.same_refl _
  · refine (statusStage_within _ _ plain hstatus _ _).mute.bind fun updated => ?_
    refine (priorityStage_within _ _ plain hpriority _ _).mute.bind fun updated => ?_
    exact (assigneeStage_within plain hassignee fun h => absurd h hstatus).mute

/-- A status in the body arrives with the serializer's save if it is the loaded one, and with
the transition if it is another. -/
theorem performUpdate_delivers_status (hbody : body.status = some status)
    (hstays : (body.newAssignee loaded.ticket).isSome → autoTransition site.ws status = none) :
    Delivers (.column .status) loaded (Demand.wish site (.patch body) loaded)
      (performUpdate site caller body loaded) := by
  have hsubmits : body.submits (.column .status) = true := by simp [Patch.submits, hbody]
  have plain : Plain (.column .status) := Patch.plain_of_submits hsubmits
  have hwish : (Demand.wish site (.patch body) loaded).ticket.status = status := by
    simp [Demand.wish, TicketRow.modify, hbody]
  have hrest : ∀ updated : TicketRow, updated.ticket.status = status →
      Mute (.column .status) ((whenSome (changePriority site caller)
        (body.newPriority loaded.ticket) updated).bind fun updated =>
          whenSome (assignTo site caller) (body.newAssignee loaded.ticket) updated) := by
    intro updated hupdated
    have skips := (priorityStage_within site caller plain (by decide)
      (body.newPriority loaded.ticket) updated).skips (by decide)
    refine Program.Quiet.bind_of_meets skips.mute
      (Program.Meets.mono skips (fun _ h => h) (fun _ _ => True.intro) fun _ h => h)
      fun prior hprior => (assigneeStage_within plain (by decide) fun _ hassigns => ?_).mute
    rw [Eq.trans hprior hupdated]
    exact hstays hassigns
  refine Program.Pending.bind_right (Program.meets_ofExcept fun _ _ => trivial)
    fun _ (_ : True) => ?_
  by_cases hsame : loaded.ticket.status = status
  · have hnone : body.newStatus loaded.ticket = none := by
      simp [Patch.newStatus, hbody, Option.filter, hsame]
    refine Program.Pending.bind_left (saveKeys_delivers (Key.mem_all _) plain.restamped ?_)
      (saveKeys_returns _ _) fun updated retains => ?_
    · refine Key.Same.trans (fillCompany_same site _ (by decide)) ?_
      exact hsame.trans hwish.symm
    · rw [hnone]
      have hupdated := retains (.column .status) (by decide) plain.restamped
      exact hrest updated (Eq.trans hupdated hsame)
  · have hmoves : body.newStatus loaded.ticket = some status := by
      rw [Patch.newStatus, hbody, Option.filter_some, if_pos]
      exact decide_eq_true (Ne.symm hsame)
    refine Program.Pending.bind_right
      (serializerSave_old loaded plain (by decide) rfl) fun updated hupdated => ?_
    rw [hmoves]
    have hother : updated.ticket.status ≠ status := fun h => hsame (Eq.trans (Eq.symm hupdated) h)
    obtain ⟨delivers, returns⟩ := transitionStatus_delivers site caller loaded hother hwish
    exact Program.Pending.bind_left delivers returns hrest

theorem performUpdate_delivers_priority (hsubmits : body.submits (.column .priority) = true) :
    Delivers (.column .priority) loaded (Demand.wish site (.patch body) loaded)
      (performUpdate site caller body loaded) := by
  have plain : Plain (.column .priority) := Patch.plain_of_submits hsubmits
  obtain ⟨priority, hbody⟩ := Option.isSome_iff_exists.mp hsubmits
  have hwish : (Demand.wish site (.patch body) loaded).ticket.priority = priority := by
    simp [Demand.wish, TicketRow.modify, hbody]
  have hassign : ∀ updated, Mute (.column .priority)
      (whenSome (assignTo site caller) (body.newAssignee loaded.ticket) updated) := fun updated =>
    (assigneeStage_within plain (by decide) fun h => absurd h (by decide)).mute
  have hstage := fun updated => statusStage_within site caller plain
    (by decide) (body.newStatus loaded.ticket) updated
  refine Program.Pending.bind_right (Program.meets_ofExcept fun _ _ => trivial)
    fun _ (_ : True) => ?_
  by_cases hsame : loaded.ticket.priority = priority
  · have hnone : body.newPriority loaded.ticket = none := by
      simp [Patch.newPriority, hbody, Option.filter, hsame]
    refine Program.Pending.bind_left (saveKeys_delivers (Key.mem_all _) plain.restamped ?_)
      (saveKeys_returns _ _) fun updated _ => ?_
    · refine Key.Same.trans (fillCompany_same site _ (by decide)) ?_
      exact hsame.trans hwish.symm
    · rw [hnone]
      exact (hstage updated).mute.bind hassign
  · have hmoves : body.newPriority loaded.ticket = some priority := by
      rw [Patch.newPriority, hbody, Option.filter_some, if_pos]
      exact decide_eq_true (Ne.symm hsame)
    refine Program.Pending.bind_right
      (serializerSave_old loaded plain (by decide) rfl) fun updated hupdated => ?_
    refine ((hstage updated).skips (by decide)).delivers fun moved hmoved => ?_
    rw [hmoves]
    have hother : moved.ticket.priority ≠ priority := fun h =>
      hsame (Eq.trans (Eq.symm (Eq.trans hmoved hupdated)) h)
    exact Program.Pending.bind_left (changePriority_delivers hother hwish)
      (Program.meets_true _) fun prior _ => hassign prior

theorem performUpdate_delivers_assignee
    (hnull : body.assignee = some none → loaded.ticket.assignee = none)
    (hsubmits : body.submits (.column .assignee) = true) :
    Delivers (.column .assignee) loaded (Demand.wish site (.patch body) loaded)
      (performUpdate site caller body loaded) := by
  have plain : Plain (.column .assignee) := Patch.plain_of_submits hsubmits
  obtain ⟨assignee, hbody⟩ := Option.isSome_iff_exists.mp hsubmits
  have hwish : (Demand.wish site (.patch body) loaded).ticket.assignee = assignee := by
    simp [Demand.wish, TicketRow.modify, hbody]
  have hstatusStage := fun updated => statusStage_within site caller plain
    (by decide) (body.newStatus loaded.ticket) updated
  have hpriorityStage := fun updated => priorityStage_within site caller
    plain (by decide) (body.newPriority loaded.ticket) updated
  refine Program.Pending.bind_right (Program.meets_ofExcept fun _ _ => trivial)
    fun _ (_ : True) => ?_
  cases hnew : body.newAssignee loaded.ticket with
  | none =>
    have hsame : loaded.ticket.assignee = assignee := by
      cases assignee with
      | none => exact hnull hbody
      | some user =>
        by_contra hother
        rw [Patch.newAssignee, hbody, Option.getD_some, Option.filter_some, if_pos] at hnew
        · cases hnew
        · exact decide_eq_true (Ne.symm hother)
    refine Program.Pending.bind_left (saveKeys_delivers (Key.mem_all _) plain.restamped ?_)
      (saveKeys_returns _ _) fun updated _ => ?_
    · refine Key.Same.trans (fillCompany_same site _ (by decide)) ?_
      exact hsame.trans hwish.symm
    · exact (hstatusStage updated).mute.bind fun moved =>
        (hpriorityStage moved).mute.bind fun prior => .done trivial
  | some user =>
    have huser : assignee = some user :=
      Option.some.inj (hbody.symm.trans (Patch.assignee_of_newAssignee hnew))
    refine Program.Pending.bind_right
      (serializerSave_old loaded plain (by decide) rfl) fun updated _ => ?_
    refine ((hstatusStage updated).skips (by decide)).delivers fun moved _ => ?_
    refine ((hpriorityStage moved).skips (by decide)).delivers fun prior _ => ?_
    exact assignTo_delivers (hwish.trans huser)

theorem Patch.stays_of_clear (clear : (Demand.patch body).Clear site loaded)
    (hbody : body.status = some status) (hassigns : (body.newAssignee loaded.ticket).isSome) :
    autoTransition site.ws status = none := by
  by_contra htransition
  have hsubmits : body.submits (.column .status) = true := by simp [Patch.submits, hbody]
  apply clear.1 (.column .status) hsubmits
  have hsome : (autoTransition site.ws status).isSome := Option.isSome_iff_ne_none.mpr htransition
  simp [Demand.derived, hbody, hassigns, assignmentDerived, hsome]

theorem performUpdate_delivers (clear : (Demand.patch body).Clear site loaded)
    (hsubmits : body.submits key = true) :
    Delivers key loaded (Demand.wish site (.patch body) loaded)
      (performUpdate site caller body loaded) := by
  by_cases hstatus : key = .column .status
  · subst hstatus
    obtain ⟨status, hbody⟩ := Option.isSome_iff_exists.mp hsubmits
    exact performUpdate_delivers_status hbody (Patch.stays_of_clear clear hbody)
  by_cases hpriority : key = .column .priority
  · subst hpriority
    exact performUpdate_delivers_priority hsubmits
  by_cases hassignee : key = .column .assignee
  · subst hassignee
    exact performUpdate_delivers_assignee clear.2 hsubmits
  · refine Program.Pending.mono (performUpdate_delivers_simple hsubmits hstatus hpriority hassignee)
      (fun _ h => h) fun statement hputs => hputs.trans ?_
    refine Key.Same.trans ?_ (Patch.apply_wish hstatus hpriority hassignee)
    by_cases hcompany : key = .company
    · subst hcompany
      apply fillCompany_company
      rw [Bool.eq_false_iff]
      intro hlacks
      exact clear.1 .company hsubmits (by simp [Demand.derived, hlacks])
    · exact fillCompany_same site _ hcompany

theorem escalate_delivers {assignee : Option ℕ} {queue : Option Queue}
    (hsubmits : (Demand.escalate assignee queue).submits site loaded key = true) :
    Delivers key loaded ((Demand.escalate assignee queue).wish site loaded)
      (escalate site caller assignee queue loaded) := by
  have hkey : (assignee.isSome ∧ key = .column .assignee) ∨
      (queue.isSome ∧ key = .column .queue) := by simpa [Demand.submits] using hsubmits
  have hrestamped : ¬Restamped False key := by
    rcases hkey with ⟨-, rfl⟩ | ⟨-, rfl⟩ <;> exact not_restamped (by decide) (by decide) False
  unfold escalate
  split
  · exact .fail _
  · refine Program.Pending.bind_left (saveKeys_delivers ?_ hrestamped ?_)
      (Program.meets_true _) fun saved _ => ?_
    · rcases hkey with ⟨hsome, rfl⟩ | ⟨hsome, rfl⟩ <;> simp [hsome]
    · rcases hkey with ⟨hsome, rfl⟩ | ⟨hsome, rfl⟩
      · refine Key.Same.trans (fillCompany_same site _ (by decide)) ?_
        obtain ⟨user, rfl⟩ := Option.isSome_iff_exists.mp hsome
        rfl
      · refine Key.Same.trans (fillCompany_same site _ (by decide)) ?_
        cases assignee with
        | none => rfl
        | some user => rfl
    · refine (extendDeadlines_within (latitude_ne hrestamped) (.refl _ _) fun _ c hc => ?_).mute
      rintro rfl
      simp only [extensionColumns, List.mem_cons, List.not_mem_nil, or_false] at hc
      rcases hkey with ⟨-, h⟩ | ⟨-, h⟩ <;> rcases hc with rfl | rfl | rfl | rfl <;> cases h

theorem addReply_delivers {inbound : InboundReply}
    (hsubmits : (Demand.reply inbound).submits site loaded key = true) :
    Delivers key loaded ((Demand.reply inbound).wish site loaded)
      (addReply site caller inbound loaded) := by
  obtain ⟨⟨hbody, hreopens⟩, rfl⟩ : (inbound.bodyIsBlank = false ∧
      (reopenTarget site loaded.ticket).isSome) ∧ key = .column .status := by
    simpa [Demand.submits] using hsubmits
  obtain ⟨target, htarget⟩ := Option.isSome_iff_exists.mp hreopens
  have hmoves := (Option.filter_eq_some_iff.mp htarget).2
  unfold addReply
  rw [if_neg (by simp [hbody])]
  have within : Within loaded (fun key => key ≠ .column .status ∧ key ≠ .column .preWaitStatus)
      False (resumeForReply site caller inbound loaded) := by
    refine resumeForReply_within ⟨?_, False.elim⟩ (.refl _ _) fun _ c hc => ?_
    · intro key hrestamped
      constructor <;> rintro rfl <;> exact not_restamped (by decide) (by decide) False hrestamped
    · simp only [clockColumns, List.mem_cons, List.not_mem_nil, or_false] at hc
      rcases hc with rfl | rfl | rfl <;> decide
  refine Program.Pending.bind_right (Program.Meets.mono within (fun _ _ h => h.elim)
    (fun _ hlists h => absurd rfl (hlists _ h).1) fun _ h => h) fun resumed held => ?_
  have hstatus : resumed.ticket.status = loaded.ticket.status :=
    held (.column .status) (by decide) fun h => h.1 rfl
  have hpreWait : resumed.ticket.preWaitStatus = loaded.ticket.preWaitStatus :=
    held (.column .preWaitStatus) (by decide) fun h => h.2 rfl
  rw [reopenTarget_congr _ hstatus hpreWait, htarget]
  refine (changeStatus_delivers _ _ _ ?_ ?_).1
  · rw [hstatus]
    exact (of_decide_eq_true hmoves).symm
  · simp [Demand.wish, TicketRow.modify, htarget]

theorem Visit.serve_delivers {visit : Visit} (clear : visit.demand.Clear site loaded)
    (hsubmits : visit.demand.submits site loaded key = true) :
    Delivers key loaded (visit.demand.wish site loaded) (visit.serve site loaded) ∨
      Mute key (visit.serve site loaded) ∧
        key.Same loaded (visit.demand.wish site loaded) := by
  obtain ⟨caller, demand⟩ := visit
  cases demand with
  | patch body => exact .inl (performUpdate_delivers clear hsubmits)
  | assign assignee =>
    obtain rfl : key = .column .assignee := of_decide_eq_true hsubmits
    exact .inl (assignTo_delivers rfl)
  | changeStatus newStatus =>
    obtain rfl : key = .column .status := of_decide_eq_true hsubmits
    by_cases hsame : loaded.ticket.status = newStatus
    · refine .inr ⟨?_, hsame⟩
      refine Program.Quiet.bind_of_meets (Program.meets_ofExcept fun _ _ => trivial)
        (Program.meets_true _) fun _ _ => ?_
      rw [changeStatus, if_pos hsame]
      exact .done trivial
    · exact .inl (transitionStatus_delivers _ _ _ hsame rfl).1
  | escalate assignee queue => exact .inl (escalate_delivers hsubmits)
  | addTag tags =>
    obtain rfl : key = .column .tags := of_decide_eq_true hsubmits
    left
    apply saveKeys_delivers (by decide) (not_restamped (by decide) (by decide) False)
    exact fillCompany_same site _ (by decide)
  | reply inbound => exact .inl (addReply_delivers hsubmits)

end Demands

/-! ## Runs -/

section Runs

variable (site : Site) (visits : ℕ → Visit)

theorem traffic_lawful : (traffic site visits).Lawful where
  submits_not_derives := fun clear hsubmits => clear.1 _ hsubmits
  submits_not_trails := fun hsubmits => Demand.submits_not_trails hsubmits
  carries := by
    intro request loaded _ steady hsteady
    have carries := Visit.serve_carries site (visits request) loaded fun hs : steady =>
        ⟨Bool.eq_false_iff.mpr (hsteady hs).1, (hsteady hs).2⟩
    refine Program.Meets.bind (Program.Meets.mono carries (fun _ h => h) ?_ fun _ h => h)
      fun _ _ => .done trivial
    intro statement hstatement key hlists hsubmits hderives htrails
    apply hstatement key hlists
    rintro (h | h | h | ⟨hs, h⟩)
    · exact hsubmits h
    · exact hderives h
    · exact hderives (h ▸ Demand.updatedAt_mem)
    · rcases htrails with hs' | hnot
      · exact hs hs'
      · exact hnot h
  delivers := by
    intro request loaded key clear hsubmits
    rcases Visit.serve_delivers clear hsubmits with delivers | ⟨mute, hsame⟩
    · exact .inl (Program.Pending.bind_left delivers (Program.meets_true _)
        fun _ _ => .done trivial)
    · exact .inr ⟨Mute.bind mute fun _ => .done trivial, hsame⟩

def served (store : TicketStore) (schedule : List ℕ) :
    Traffic.State TicketStore Statement TicketRow :=
  run (traffic site visits).turn (Traffic.start store) schedule

/--
What a request that succeeds submits is in the stored row, and no column returns to an older
value, those apart that the code derives from the submitted ones.
-/
structure KeepsSubmissions (store : TicketStore) (schedule : List ℕ) : Prop where
  submitted : ∀ request loaded, Traffic.Succeeded (served site visits store schedule) request
    loaded → ∀ key, (visits request).demand.submits site loaded key = true →
      key.Same (served site visits store schedule).shared.row
        ((visits request).demand.wish site loaded)
  kept : ∀ key, ¬(traffic site visits).Derived (served site visits store schedule) key →
    ¬(traffic site visits).Returns key (Traffic.start store) schedule

/-- A run of requests that submit different columns keeps what they submit if each of its
turns finds the ticket undisturbed. -/
theorem keepsSubmissions_of_undisturbed (store : TicketStore) (schedule : List ℕ)
    (apart : (traffic site visits).Apart (served site visits store schedule))
    (undisturbed : Every (traffic site visits).turn (traffic site visits).Undisturbed
      (Traffic.start store) schedule) : KeepsSubmissions site visits store schedule where
  submitted := fun _ _ succeeded _ hsubmits =>
    Traffic.row_of_succeeded (traffic_lawful site visits) undisturbed apart succeeded hsubmits
  kept := fun _ underived =>
    Traffic.not_returns (traffic_lawful site visits) undisturbed apart underived

end Runs

/-! ## A new subject and an assignee -/

/-- A `PATCH` of the subject, and an assignment to the second member. -/
def subjectAndAssignee (request : ℕ) : Visit where
  req := { clock := ⟨1, 1, 1, 1⟩ }
  demand :=
    if request = 0 then
      .patch { fields := fun field => if field = .subject then some (some "Printer") else none }
    else .assign 2

/-- A workspace as seeded. -/
def seededSite : Site where
  ws := Workspace.seeded
  recursionLimit := 3

/-- An open ticket that nobody is assigned to. -/
def unassignedStore : TicketStore where
  id := 1
  row := { ticket :=
    { status := { pk := 0, name := "Open", slug := "open", order := 10, isDefault := true }
      createdBy := 1
      createdAt := 0
      updatedAt := 0 } }

theorem subjectAndAssignee_zero {loaded : TicketRow} {key : Key}
    (h : (subjectAndAssignee 0).demand.submits seededSite loaded key = true) :
    key = .field .subject := by
  cases key with
  | field f => cases f <;> first | rfl | cases h
  | column c => cases c <;> cases h
  | _ => cases h

theorem subjectAndAssignee_one {loaded : TicketRow} {key : Key}
    (h : (subjectAndAssignee 1).demand.submits seededSite loaded key = true) :
    key = .column .assignee :=
  of_decide_eq_true h

theorem subjectAndAssignee_apart {schedule : List ℕ}
    (hschedule : ∀ request ∈ schedule, request = 0 ∨ request = 1) :
    (traffic seededSite subjectAndAssignee).Apart
      (served seededSite subjectAndAssignee unassignedStore schedule) := by
  intro first second loaded other key hne hfirst hsecond hsubmits hsubmits'
  rcases hschedule first hfirst.mem_schedule with rfl | rfl <;>
    rcases hschedule second hsecond.mem_schedule with rfl | rfl
  · exact hne rfl
  · have hequal := (subjectAndAssignee_zero hsubmits).symm.trans (subjectAndAssignee_one hsubmits')
    cases hequal
  · have hequal := (subjectAndAssignee_zero hsubmits').symm.trans (subjectAndAssignee_one hsubmits)
    cases hequal
  · exact hne rfl

/-- The `PATCH` has loaded the ticket before the assignment, and saves all its columns after
it: the assignee is lost. -/
theorem assignee_lost :
    (traffic seededSite subjectAndAssignee).Apart
        (served seededSite subjectAndAssignee unassignedStore [0, 1, 1, 1, 0, 0]) ∧
      (∀ request ∈ [0, 1, 1, 1, 0, 0], ∃ loaded, Traffic.Succeeded
        (served seededSite subjectAndAssignee unassignedStore [0, 1, 1, 1, 0, 0])
        request loaded) ∧
      ¬KeepsSubmissions seededSite subjectAndAssignee unassignedStore [0, 1, 1, 1, 0, 0] := by
  have hboth : ∀ request ∈ [0, 1, 1, 1, 0, 0], request = 0 ∨ request = 1 := by decide
  refine ⟨subjectAndAssignee_apart hboth, ?_, ?_⟩
  · intro request hrequest
    rcases hboth request hrequest with rfl | rfl
    · exact ⟨unassignedStore.row, rfl⟩
    · exact ⟨unassignedStore.row, rfl⟩
  · intro keeps
    have hassignee := keeps.submitted 1 unassignedStore.row rfl (.column .assignee) rfl
    cases hassignee

/-- When the `PATCH` saves before the assignment does, both arrive. -/
theorem subject_and_assignee_kept :
    KeepsSubmissions seededSite subjectAndAssignee unassignedStore [0, 1, 0, 0, 1, 1] := by
  apply keepsSubmissions_of_undisturbed seededSite subjectAndAssignee unassignedStore
  · exact subjectAndAssignee_apart (by decide)
  · refine ⟨Traffic.undisturbed_of_none rfl ⟨?_, ?_⟩, Traffic.undisturbed_of_none rfl ⟨?_, trivial⟩,
      trivial, Traffic.undisturbed_of_write unassignedStore.row rfl ?_, trivial,
      Traffic.undisturbed_of_write unassignedStore.row rfl ?_, trivial⟩
    · intro key hsubmits
      rw [subjectAndAssignee_zero hsubmits]
      decide
    · intro h
      cases h
    · intro key hsubmits
      rw [subjectAndAssignee_one hsubmits]
      decide
    · intro key other served _ hother hserved hsubmits
      have hmem := Traffic.Loaded.mem_schedule [0, 1, 0] ⟨served.program, hserved⟩
      obtain rfl : other = 1 := by simpa [hother] using hmem
      rw [subjectAndAssignee_one hsubmits]
      have hderived : Key.column .assignee ∉
          (subjectAndAssignee 0).demand.derived seededSite unassignedStore.row := by decide
      exact ⟨hderived, rfl⟩
    · intro key other served hlists hother hserved hsubmits
      have hmem := Traffic.Loaded.mem_schedule [0, 1, 0, 0, 1]
        ⟨served.program, hserved⟩
      obtain rfl : other = 0 := by simpa [hother] using hmem
      rw [subjectAndAssignee_zero hsubmits] at hlists
      obtain ⟨column, -, hcolumn⟩ := List.mem_map.mp hlists
      cases hcolumn

end Kanzan.Tickets

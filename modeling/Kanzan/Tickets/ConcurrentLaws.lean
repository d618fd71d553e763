import Kanzan.Tickets.Concurrent
import Kanzan.Tickets.Effects

/-!
# What requests on one ticket write

Whatever a save reads on its way, it writes the columns it lists from the instance it was
given, the ones apart that the receivers stamp.  From this each service function is known by
the columns that it writes and those in which its instance stays as loaded.
-/

namespace Kanzan.Tickets

open Sla Support

/-! ## Columns -/

theorem Column.same_equivalence (c : Column) : Equivalence c.Same := by
  cases c <;> exact ⟨fun _ => rfl, Eq.symm, Eq.trans⟩

theorem Key.same_equivalence (key : Key) : Equivalence key.Same := by
  cases key with
  | column c => exact ⟨fun _ => c.same_equivalence.refl _, c.same_equivalence.symm,
      c.same_equivalence.trans⟩
  | _ => exact ⟨fun _ => rfl, Eq.symm, Eq.trans⟩

theorem Key.same_refl (key : Key) (row : TicketRow) : key.Same row row :=
  key.same_equivalence.refl row

theorem Key.Same.trans {key : Key} {a b c : TicketRow} (hab : key.Same a b) (hbc : key.Same b c) :
    key.Same a c :=
  key.same_equivalence.trans hab hbc

theorem Key.Same.symm {key : Key} {a b : TicketRow} (h : key.Same a b) : key.Same b a :=
  key.same_equivalence.symm h

@[simp]
theorem mem_columnsOf {c : Column} {keys : List Key} : c ∈ columnsOf keys ↔ .column c ∈ keys := by
  unfold columnsOf
  rw [List.mem_filterMap]
  constructor
  · rintro ⟨key, hkey, hcolumn⟩
    cases key with
    | column c' => rwa [← Option.some.inj hcolumn]
    | _ => cases hcolumn
  · intro hkey
    exact ⟨.column c, hkey, rfl⟩

theorem Key.mem_all (key : Key) : key ∈ Key.all := by
  cases key with
  | column c => cases c <;> decide
  | field f => cases f <;> decide
  | internal i => cases i <;> decide
  | _ => decide

theorem Column.same_persist {c : Column} {columns : List Column} {inst row : Ticket} :
    (c ∈ columns → c.Same (inst.persist columns row) inst) ∧
      (c ∉ columns → c.Same (inst.persist columns row) row) := by
  cases c <;> exact ⟨fun h => if_pos h, fun h => if_neg h⟩

theorem TicketRow.persist_of_mem {key : Key} {keys : List Key} (inst row : TicketRow)
    (hkey : key ∈ keys) : key.Same (inst.persist keys row) inst := by
  cases key with
  | column c =>
    have hcolumn := (@Column.same_persist c _ inst.ticket row.ticket).1
      (mem_columnsOf.mpr hkey)
    cases c <;> exact hcolumn
  | _ => exact if_pos hkey

theorem TicketRow.persist_of_notMem {key : Key} {keys : List Key} (inst row : TicketRow)
    (hkey : key ∉ keys) : key.Same (inst.persist keys row) row := by
  cases key with
  | column c =>
    have hcolumn := (@Column.same_persist c _ inst.ticket row.ticket).2
      (mt mem_columnsOf.mp hkey)
    cases c <;> exact hcolumn
  | _ => exact if_neg hkey

theorem TicketRow.same_of_persist {columns : List Column} {ticket : Ticket} {row : TicketRow}
    (hpersist : ticket.persist columns row.ticket = ticket) {key : Key}
    (hkey : ∀ c ∈ columns, key ≠ .column c) : key.Same (row.modify fun _ => ticket) row := by
  have hedit : (row.modify fun _ => ticket).ticket = ticket.persist columns row.ticket :=
    hpersist.symm
  cases key with
  | column c =>
    have hcolumn : c ∉ columns := fun hmem => hkey c hmem rfl
    have hsame := (@Column.same_persist c _ ticket row.ticket).2 hcolumn
    rw [← hedit] at hsame
    exact hsame
  | createdBy => exact (congrArg Ticket.createdBy hedit).trans rfl
  | createdAt => exact (congrArg Ticket.createdAt hedit).trans rfl
  | firstRespondedAt => exact (congrArg Ticket.firstRespondedAt hedit).trans rfl
  | _ => rfl

theorem Confined.same {columns : List Column} {edit : Ticket → Ticket}
    (confined : Confined columns edit) (row : TicketRow) {key : Key}
    (hkey : ∀ c ∈ columns, key ≠ .column c) : key.Same (row.modify edit) row :=
  row.same_of_persist (confined row.ticket) hkey

/-! ## Saves -/

/-- The columns that a save may write otherwise than the instance has them. -/
def Restamped (steady : Prop) (key : Key) : Prop :=
  key = .column .updatedAt ∨ ¬steady ∧ key ∈ receiverDerived

theorem not_restamped {key : Key} (hupdated : key ≠ .column .updatedAt)
    (hreceiver : key ∉ receiverDerived) (steady : Prop) : ¬Restamped steady key := by
  rintro (h | ⟨-, h⟩)
  · exact hupdated h
  · exact hreceiver h

theorem not_restamped_status (steady : Prop) : ¬Restamped steady (.column .status) :=
  not_restamped (by decide) (by decide) steady

def Retains (steady : Prop) (inst saved : TicketRow) : Prop :=
  ∀ key, key ≠ .company → ¬Restamped steady key → key.Same saved inst

def Statement.Puts : Statement → Key → TicketRow → Prop
  | .update _ inst, key, value => key.Same inst value
  | .openPause _, _, _ => True
  | .closePause _ _, _, _ => True

theorem Retains.refl (steady : Prop) (inst : TicketRow) : Retains steady inst inst :=
  fun key _ _ => key.same_refl inst

theorem Retains.trans {steady : Prop} {a b c : TicketRow} (hab : Retains steady a b)
    (hbc : Retains steady b c) : Retains steady a c :=
  fun key hcompany hkey => (hbc key hcompany hkey).trans (hab key hcompany hkey)

@[simp]
theorem fillCompany_ticket (site : Site) (inst : TicketRow) :
    (inst.fillCompany site).ticket = inst.ticket := by
  unfold TicketRow.fillCompany
  split <;> rfl

theorem fillCompany_same (site : Site) (inst : TicketRow) {key : Key} (hkey : key ≠ .company) :
    key.Same (inst.fillCompany site) inst := by
  unfold TicketRow.fillCompany
  split
  · cases key with
    | column c => exact c.same_equivalence.refl _
    | company => exact absurd rfl hkey
    | _ => rfl
  · exact key.same_refl inst

theorem fillCompany_company {site : Site} {inst : TicketRow}
    (hlacks : inst.lacksCompany site = false) : (inst.fillCompany site).company = inst.company := by
  unfold TicketRow.fillCompany
  split
  · rename_i contact hcontact hcompany
    rw [TicketRow.lacksCompany, hcontact, hcompany, Option.bind_some] at hlacks
    simpa [hcompany] using hlacks
  · rfl

theorem handleTicketStatusChange_confined (now : Instant) (previous : Ticket) :
    Confined [.resolvedAt, .closedAt, .slaResolutionBreached]
      (handleTicketStatusChange now previous) := by
  intro ticket
  unfold handleTicketStatusChange
  split
  · rfl
  split
  · unfold checkResolutionBreach
    split
    · rfl
    split
    · rfl
    · split <;> rfl
  · rfl

theorem autoNow_confined (columns : List Column) (now : Instant) :
    Confined [.updatedAt] fun ticket => ticket.autoNow columns now := by
  intro ticket
  dsimp only [Ticket.autoNow]
  split <;> rfl

theorem preSave_same {steady : Prop} (now autoNow : Instant) {previous : Ticket}
    {inst : TicketRow} (columns : List Column)
    (hsteady : steady → previous.status = inst.ticket.status) {key : Key}
    (hkey : ¬Restamped steady key) :
    key.Same (inst.modify fun ticket =>
      (handleTicketStatusChange now previous ticket).autoNow columns autoNow) inst := by
  have hupdated : ∀ c ∈ ([.updatedAt] : List Column), key ≠ .column c := by
    intro c hc hequal
    rw [List.mem_singleton] at hc
    subst hc
    exact hkey (.inl hequal)
  have hlast := (autoNow_confined columns autoNow).same
    (inst.modify (handleTicketStatusChange now previous)) hupdated
  refine Key.Same.trans hlast ?_
  by_cases hstatus : previous.status = inst.ticket.status
  · have hinst : inst.modify (handleTicketStatusChange now previous) = inst := by
      rw [TicketRow.modify, handleTicketStatusChange_of_same hstatus]
    rw [hinst]
    exact key.same_refl inst
  · apply (handleTicketStatusChange_confined now previous).same
    rintro c hc rfl
    refine hkey (.inr ⟨fun steady => hstatus (hsteady steady), ?_⟩)
    simp only [List.mem_cons, List.not_mem_nil, or_false] at hc
    rcases hc with rfl | rfl | rfl <;> decide

section Saving

variable {site : Site} {clock : Clock}

def clockColumns : List Column := [.slaFirstResponseDue, .slaResolutionDue, .slaPausedAt]

/-- Saves of the columns of the clock keep an assertion about the instance. -/
structure ClockSaves (save : List Key → TicketRow → Routine TicketRow)
    (Reads : TicketStore → Prop) (Writes : Statement → Prop) (Holds : TicketRow → Prop) :
    Prop where
  edit : ∀ {inst} columns {edit}, Confined columns edit → columns ⊆ clockColumns → Holds inst →
    Holds (inst.modify edit)
  save : ∀ {inst} (columns : List Column), columns ⊆ .updatedAt :: clockColumns → Holds inst →
    (save (columns.map .column) inst).Meets Reads Writes Holds
  pause : ∀ {statement : Statement}, (∀ key, ¬statement.lists key) → Writes statement

section Receivers

variable {save : List Key → TicketRow → Routine TicketRow} {Reads : TicketStore → Prop}
variable {Writes : Statement → Prop} {Holds : TicketRow → Prop} {inst : TicketRow}

theorem shiftDeadlines_meets (saves : ClockSaves save Reads Writes Holds)
    (pauseStart pauseEnd : Instant) (holds : Holds inst) :
    (shiftDeadlines site save pauseStart pauseEnd inst).Meets Reads Writes Holds := by
  unfold shiftDeadlines
  dsimp only
  split
  · exact .done holds
  split
  · exact .done holds
  · apply saves.save
    · intro c hc
      split at hc <;> split at hc <;> simp at hc <;> rcases hc with rfl | rfl | rfl <;> decide
    · exact saves.edit [.slaFirstResponseDue, .slaResolutionDue] (fun _ => rfl)
        (by decide) holds

theorem savePausedAt_meets (saves : ClockSaves save Reads Writes Holds)
    (pausedAt : Option Instant) (holds : Holds inst) :
    (save [.column .slaPausedAt, .column .updatedAt]
      (inst.modify (Ticket.setSlaPausedAt pausedAt))).Meets Reads Writes Holds := by
  apply saves.save [.slaPausedAt, .updatedAt] (by decide)
  exact saves.edit [.slaPausedAt] (fun _ => rfl) (by decide) holds

theorem resumePause_meets (saves : ClockSaves save Reads Writes Holds) (now : Instant)
    (holds : Holds inst) : (resumePause site save now inst).Meets Reads Writes Holds := by
  unfold resumePause
  rw [Program.bind_eq, Program.stored_bind]
  apply Program.Meets.read
  intro store _
  cases store.db.latestOpenPause store.id with
  | none => exact .done holds
  | some pause =>
    simp only [Program.bind_eq, Program.perform_bind]
    refine .write (saves.pause fun _ hlists => hlists) ?_
    exact (shiftDeadlines_meets saves pause.pausedAt now holds).bind
      fun shifted hshifted => savePausedAt_meets saves none hshifted

theorem pauseOnStatusChange_meets (saves : ClockSaves save Reads Writes Holds)
    (previous : TicketStatus) (now : Instant) (holds : Holds inst) :
    (pauseOnStatusChange site save previous now inst).Meets Reads Writes Holds := by
  unfold pauseOnStatusChange
  split
  · exact .done holds
  split
  · simp only [Program.bind_eq, Program.perform_bind]
    exact .write (saves.pause fun _ hlists => hlists) (savePausedAt_meets saves (some now) holds)
  · exact resumePause_meets saves now holds
  · exact .done holds

end Receivers

theorem restamped_of_clock {c : Column} (hc : c ∈ .updatedAt :: clockColumns) :
    Restamped False (.column c) := by
  rcases List.mem_cons.mp hc with rfl | hclock
  · exact .inl rfl
  · refine .inr ⟨not_false, ?_⟩
    simp only [clockColumns, List.mem_cons, List.not_mem_nil, or_false] at hclock
    rcases hclock with rfl | rfl | rfl <;> decide

theorem clockSaves_of_meets {save : List Key → TicketRow → Routine TicketRow}
    (meets : ∀ keys inst, (save keys inst).Meets
      (fun store => False → store.row.ticket.status = inst.ticket.status)
      (fun statement => ∀ key, statement.lists key → ¬Restamped False key →
        key ∈ keys ∧ statement.Puts key (inst.fillCompany site))
      (fun saved => Retains False inst saved)) (origin : TicketRow) :
    ClockSaves save (fun _ => True)
      (fun statement => ∀ key, statement.lists key → Restamped False key)
      (Retains False origin) where
  edit := by
    intro inst columns edit confined hclock retains
    refine retains.trans fun key hcompany hkey => confined.same inst ?_
    rintro c hc rfl
    exact hkey (restamped_of_clock (List.mem_cons_of_mem _ (hclock hc)))
  save := by
    intro inst columns hclock retains
    refine (meets (columns.map .column) inst).mono (fun _ _ h => h.elim) ?_
      fun saved => retains.trans
    intro statement hstatement key hlists
    by_contra hkey
    obtain ⟨c, hc, rfl⟩ := List.mem_map.mp (hstatement key hlists hkey).1
    exact hkey (restamped_of_clock (hclock hc))
  pause := fun hpause key hlists => absurd hlists (hpause key)

/--
A save writes the columns it lists from the instance, its company filled in; what it writes
otherwise are columns that saves restamp.
-/
theorem saveTicket_meets (steady : Prop) (depth : ℕ) (keys : List Key) (inst : TicketRow) :
    (saveTicket site clock depth keys inst).Meets
      (fun store => steady → store.row.ticket.status = inst.ticket.status)
      (fun statement => ∀ key, statement.lists key → ¬Restamped steady key →
        key ∈ keys ∧ statement.Puts key (inst.fillCompany site))
      (fun saved => Retains steady inst saved) := by
  induction depth generalizing steady keys inst with
  | zero => exact .fail _
  | succ depth ih =>
    have nested := clockSaves_of_meets (ih False)
    unfold saveTicket
    simp only [Program.bind_eq, Program.stored_bind, Program.perform_bind]
    refine .read fun store hsteady => ?_
    rw [← fillCompany_ticket site inst] at hsteady
    have hsame : ∀ key, ¬Restamped steady key → key.Same _ (inst.fillCompany site) :=
      fun key hkey => preSave_same clock.preSave clock.autoNow (columnsOf keys) hsteady hkey
    refine .write (fun key hlists hkey => ⟨hlists, hsame key hkey⟩) ?_
    have hretains : Retains steady inst ((inst.fillCompany site).modify fun ticket =>
        (handleTicketStatusChange clock.preSave store.row.ticket ticket).autoNow
          (columnsOf keys) clock.autoNow) := fun key hcompany hkey =>
      (hsame key hkey).trans (fillCompany_same site inst hcompany)
    by_cases hs : steady
    · have hstatus := hsame (.column .status) (not_restamped_status steady)
      rw [pauseOnStatusChange, if_pos ((hsteady hs).trans hstatus.symm)]
      exact .done hretains
    · have hunsteady : ∀ key, Restamped False key → Restamped steady key :=
        fun key hkey => hkey.imp_right fun hkey => ⟨hs, hkey.2⟩
      refine (pauseOnStatusChange_meets (nested _) store.row.ticket.status clock.postSave
        (.refl _ _)).mono (fun _ _ => trivial) ?_ ?_
      · intro statement hstatement key hlists hkey
        exact absurd (hunsteady key (hstatement key hlists)) hkey
      · intro saved hsaved
        exact hretains.trans fun key hcompany hkey =>
          hsaved key hcompany (mt (hunsteady key) hkey)

end Saving

/-! ## What stays as loaded -/

/-- An instance has what was loaded in the columns outside the loose ones. -/
def Held (base : TicketRow) (loose : Key → Prop) (inst : TicketRow) : Prop :=
  ∀ key, key ≠ .company → ¬loose key → key.Same inst base

/-- A routine writes what was loaded into every column outside the loose ones. -/
def Carries (base : TicketRow) (loose : Key → Prop) (steady : Prop)
    (routine : Routine TicketRow) : Prop :=
  routine.Meets (fun store => steady → store.row.ticket.status = base.ticket.status)
    (fun statement => ∀ key, statement.lists key → ¬loose key → statement.Puts key base)
    (Held base loose)

/-- The columns that saves restamp are loose, and a steady status is not. -/
structure Latitude (loose : Key → Prop) (steady : Prop) : Prop where
  restamped : ∀ key, Restamped steady key → loose key
  status : steady → ¬loose (.column .status)

theorem Statement.Puts.trans {statement : Statement} {key : Key} {a b : TicketRow}
    (puts : statement.Puts key a) (hsame : key.Same a b) : statement.Puts key b := by
  cases statement with
  | update keys inst => exact Key.Same.trans puts hsame
  | openPause now => exact trivial
  | closePause pause now => exact trivial

theorem Held.refl (base : TicketRow) (loose : Key → Prop) : Held base loose base :=
  fun key _ _ => key.same_refl base

section Services

variable {site : Site} {caller : Caller} {base inst : TicketRow} {loose : Key → Prop}
variable {steady : Prop}

theorem Held.draft (held : Held base loose inst) {columns : List Column} {ticket : Ticket}
    (hpersist : ticket.persist columns inst.ticket = ticket)
    (hloose : ∀ c ∈ columns, loose (.column c)) :
    Held base loose (inst.modify fun _ => ticket) := by
  intro key hcompany hkey
  refine Key.Same.trans (inst.same_of_persist hpersist ?_) (held key hcompany hkey)
  rintro c hc rfl
  exact hkey (hloose c hc)

theorem Held.modify (held : Held base loose inst) (columns : List Column)
    {edit : Ticket → Ticket} (confined : Confined columns edit)
    (hloose : ∀ c ∈ columns, loose (.column c)) : Held base loose (inst.modify edit) :=
  held.draft (confined inst.ticket) hloose

theorem saveKeys_carries (latitude : Latitude loose steady) (held : Held base loose inst)
    {keys : List Key} (hcompany : .company ∈ keys → ¬loose .company →
      Key.company.Same (inst.fillCompany site) base) :
    Carries base loose steady (saveKeys site caller keys inst) := by
  refine (saveTicket_meets steady site.recursionLimit keys inst).mono ?_ ?_ ?_
  · intro store hstore hs
    have hstatus := held (.column .status) (by decide) (latitude.status hs)
    exact (hstore hs).trans hstatus.symm
  · intro statement hstatement key hlists hkey
    obtain ⟨hmem, hputs⟩ := hstatement key hlists (mt (latitude.restamped key) hkey)
    apply hputs.trans
    by_cases hequal : key = .company
    · subst hequal
      exact hcompany hmem hkey
    · exact (fillCompany_same site inst hequal).trans (held key hequal hkey)
  · intro saved hsaved key hequal hkey
    exact (hsaved key hequal (mt (latitude.restamped key) hkey)).trans (held key hequal hkey)

def Within (base : TicketRow) (loose : Key → Prop) (steady : Prop)
    (routine : Routine TicketRow) : Prop :=
  routine.Meets (fun store => steady → store.row.ticket.status = base.ticket.status)
    (fun statement => ∀ key, statement.lists key → loose key) (Held base loose)

theorem Within.carries {routine : Routine TicketRow} (within : Within base loose steady routine) :
    Carries base loose steady routine :=
  Program.Meets.mono within (fun _ h => h)
    (fun _ hlists key hkey hloose => absurd (hlists key hkey) hloose) fun _ h => h

theorem Within.bind {routine : Routine TicketRow} {rest : TicketRow → Routine TicketRow}
    (first : Within base loose steady routine)
    (hrest : ∀ inst, Held base loose inst → Within base loose steady (rest inst)) :
    Within base loose steady (routine.bind rest) :=
  Program.Meets.bind first hrest

theorem Carries.bind {routine : Routine TicketRow} {rest : TicketRow → Routine TicketRow}
    (first : Carries base loose steady routine)
    (hrest : ∀ inst, Held base loose inst → Carries base loose steady (rest inst)) :
    Carries base loose steady (routine.bind rest) :=
  Program.Meets.bind first hrest

theorem saveColumns_within (latitude : Latitude loose steady) (held : Held base loose inst)
    (columns : List Column) (hcolumns : ∀ c ∈ columns, loose (.column c)) :
    Within base loose steady (saveKeys site caller (columns.map .column) inst) := by
  refine (saveTicket_meets steady site.recursionLimit (columns.map .column) inst).mono ?_ ?_ ?_
  · intro store hstore hs
    have hstatus := held (.column .status) (by decide) (latitude.status hs)
    exact (hstore hs).trans hstatus.symm
  · intro statement hstatement key hlists
    by_contra hkey
    have hmem := (hstatement key hlists (mt (latitude.restamped key) hkey)).1
    obtain ⟨c, hc, rfl⟩ := List.mem_map.mp hmem
    exact hkey (hcolumns c hc)
  · intro saved hsaved key hequal hkey
    exact (hsaved key hequal (mt (latitude.restamped key) hkey)).trans (held key hequal hkey)

theorem Latitude.updatedAt (latitude : Latitude loose steady) : loose (.column .updatedAt) :=
  latitude.restamped _ (.inl rfl)

theorem Latitude.receivers (latitude : Latitude loose steady) (hstatus : loose (.column .status)) :
    ∀ key ∈ receiverDerived, loose key :=
  fun key hkey => latitude.restamped key (.inr ⟨fun hs => latitude.status hs hstatus, hkey⟩)

theorem saveTicketDraft_within (site : Site) (caller : Caller) (latitude : Latitude loose steady)
    (held : Held base loose inst) {draft : Draft} (columns : List Column)
    (hpersist : draft.ticket.persist columns inst.ticket = draft.ticket)
    (hlisted : draft.updateFields ⊆ .updatedAt :: columns)
    (hcolumns : ∀ c ∈ columns, loose (.column c)) :
    Within base loose steady (saveTicketDraft site caller draft inst) := by
  apply saveColumns_within latitude (held.draft hpersist hcolumns)
  intro c hc
  rcases List.mem_cons.mp (hlisted hc) with rfl | hmem
  · exact latitude.updatedAt
  · exact hcolumns c hmem

/-- The columns that `change_ticket_status` edits. -/
def statusColumns : List Column :=
  [.status, .statusChangedAt, .statusChangedBy, .preWaitStatus, .solvedAt, .autoCloseTaskId,
    .resolvedAt, .closedAt, .slaResolutionBreached]

theorem statusDraft_persist (req : Request) (newStatus : TicketStatus) (ticket : Ticket) :
    (statusDraft req newStatus ticket).ticket.persist statusColumns ticket =
      (statusDraft req newStatus ticket).ticket := by
  obtain ⟨preWait, breached, hdraft⟩ := statusDraft_ticket req newStatus ticket
  rw [hdraft]
  rfl

theorem statusDraft_subset (req : Request) (newStatus : TicketStatus) (ticket : Ticket) :
    (statusDraft req newStatus ticket).updateFields ⊆ .updatedAt :: statusColumns := by
  intro c hc
  by_cases hbreached : c = .slaResolutionBreached
  · rw [hbreached]
    decide
  · rw [mem_statusDraft c hbreached] at hc
    rcases hc with hc | ⟨rfl, -⟩ | ⟨rfl, -⟩ | ⟨rfl, -⟩ | ⟨rfl | rfl, -⟩
    · simp only [List.mem_cons, List.not_mem_nil, or_false] at hc
      rcases hc with rfl | rfl | rfl | rfl <;> decide
    all_goals decide

def StatusLoose (loose : Key → Prop) : Prop :=
  loose (.column .status) ∧ ∀ key ∈ statusDerived, loose key

theorem StatusLoose.columns (hstatus : StatusLoose loose) (latitude : Latitude loose steady) :
    ∀ c ∈ statusColumns, loose (.column c) := by
  intro c hc
  simp only [statusColumns, List.mem_cons, List.not_mem_nil, or_false] at hc
  rcases hc with rfl | rfl | rfl | rfl | rfl | rfl | rfl | rfl | rfl
  · exact hstatus.1
  · exact hstatus.2 _ (by decide)
  · exact hstatus.2 _ (by decide)
  · exact hstatus.2 _ (by decide)
  · exact hstatus.2 _ (by decide)
  · exact hstatus.2 _ (by decide)
  · exact latitude.receivers hstatus.1 _ (by decide)
  · exact latitude.receivers hstatus.1 _ (by decide)
  · exact latitude.receivers hstatus.1 _ (by decide)

def HookWithin (loose : Key → Prop) (routine : Routine PUnit) : Prop :=
  ∀ Reads, routine.Meets Reads (fun statement => ∀ key, statement.lists key → loose key)
    fun _ => True

theorem scheduleResolvedTasks_within (hloose : loose (.column .autoCloseTaskId))
    (oldStatus newStatus : TicketStatus) :
    HookWithin loose (scheduleResolvedTasks caller oldStatus newStatus inst) := by
  intro Reads
  unfold scheduleResolvedTasks
  split
  · unfold storeTaskId
    cases caller.taskId with
    | none => exact .done trivial
    | some taskId =>
      refine .write ?_ (.done trivial)
      rintro key hkey
      obtain rfl := List.mem_singleton.mp hkey
      exact hloose
  · exact .done trivial

theorem emitClosedSignal_within (hloose : loose (.internal .needsKbArticle))
    (oldStatus newStatus : TicketStatus) :
    HookWithin loose (emitClosedSignal site oldStatus newStatus inst) := by
  intro Reads
  unfold emitClosedSignal
  split
  · refine .read fun fresh _ => ?_
    dsimp only [Program.bind]
    split
    · exact .done trivial
    · split
      · refine .write ?_ (.done trivial)
        rintro key hkey
        obtain rfl := List.mem_singleton.mp hkey
        exact hloose
      · exact .done trivial
  · exact .done trivial

theorem changeStatus_within (latitude : Latitude loose steady) (held : Held base loose inst)
    {newStatus : TicketStatus} (hloose : inst.ticket.status ≠ newStatus → StatusLoose loose) :
    Within base loose steady (changeStatus site caller newStatus inst) := by
  unfold changeStatus
  dsimp only
  split
  · exact .done held
  · rename_i hmoves
    have hstatus := hloose hmoves
    have hsaved := saveTicketDraft_within site caller latitude held _
      (statusDraft_persist caller.req newStatus inst.ticket)
      (statusDraft_subset caller.req newStatus inst.ticket) (hstatus.columns latitude)
    refine hsaved.bind fun saved held => ?_
    refine (scheduleResolvedTasks_within (hstatus.2 _ (by decide)) _ _ _).bind fun _ _ => ?_
    exact (emitClosedSignal_within (hstatus.2 _ (by decide)) _ _ _).bind fun _ _ => .done held

theorem transitionStatus_within (latitude : Latitude loose steady) (held : Held base loose inst)
    {newStatus : TicketStatus} (hloose : inst.ticket.status ≠ newStatus → StatusLoose loose) :
    Within base loose steady (transitionStatus site caller newStatus inst) := by
  refine Program.Meets.bind (Program.meets_ofExcept fun _ _ => trivial) fun _ _ => ?_
  exact changeStatus_within latitude held hloose

theorem assignTo_within (latitude : Latitude loose steady) (held : Held base loose inst)
    {assignee : ℕ} (hcolumns : ∀ c ∈ ([.assignee, .assignedBy, .assignedAt] : List Column),
      loose (.column c))
    (hstatus : (autoTransition site.ws inst.ticket.status).isSome → loose (.column .status)) :
    Within base loose steady (assignTo site caller assignee inst) := by
  unfold assignTo
  split
  · exact .fail _
  · cases htarget : autoTransition site.ws inst.ticket.status with
    | none =>
      apply saveTicketDraft_within _ _ latitude held [.assignee, .assignedBy, .assignedAt]
      · simp only [assignDraft, htarget, Option.getD_none]
        rfl
      · simp only [assignDraft, htarget]
        decide
      · exact hcolumns
    | some target =>
      apply saveTicketDraft_within _ _ latitude held
        [.assignee, .assignedBy, .assignedAt, .status]
      · simp only [assignDraft, htarget, Option.getD_some]
        rfl
      · simp only [assignDraft, htarget, Option.isSome_some, if_true]
        decide
      · intro c hc
        rcases List.mem_append.mp (show c ∈ [.assignee, .assignedBy, .assignedAt] ++ [.status]
          from hc) with hc | hc
        · exact hcolumns c hc
        · obtain rfl := List.mem_singleton.mp hc
          exact hstatus (by rw [htarget]; rfl)

theorem changePriority_within (latitude : Latitude loose steady) (held : Held base loose inst)
    {newPriority : Priority} (hloose : loose (.column .priority)) :
    Within base loose steady (changePriority site caller newPriority inst) := by
  unfold changePriority
  split
  · exact .done held
  · apply saveColumns_within latitude (held.modify [.priority] (fun _ => rfl)
      (by simpa using hloose)) [.priority, .updatedAt]
    · simpa using ⟨hloose, latitude.updatedAt⟩

def extensionColumns : List Column :=
  [.slaPolicy, .slaFirstResponseDue, .slaResolutionDue, .slaExtendedAt]

theorem extendDeadlines_within (latitude : Latitude loose steady) (held : Held base loose inst)
    (hloose : (site.ws.policyFor inst.ticket.priority).isSome →
      ∀ c ∈ extensionColumns, loose (.column c)) :
    Within base loose steady (extendDeadlines site caller inst) := by
  unfold extendDeadlines
  cases hpolicy : site.ws.policyFor inst.ticket.priority with
  | none => exact .done held
  | some newPolicy =>
    have hcolumns := hloose (by rw [hpolicy]; rfl)
    apply saveColumns_within latitude
    · exact held.modify extensionColumns (fun _ => rfl) hcolumns
    · intro c hc
      rcases List.mem_append.mp hc with hc | hc
      · split at hc
        · cases hc
        · obtain rfl := List.mem_singleton.mp hc
          exact hcolumns _ (by decide)
      · simp only [List.mem_cons, List.not_mem_nil, or_false] at hc
        rcases hc with rfl | rfl | rfl | rfl
        · exact hcolumns _ (by decide)
        · exact hcolumns _ (by decide)
        · exact hcolumns _ (by decide)
        · exact latitude.updatedAt

/-- The columns that `escalate_ticket` edits. -/
def escalatedColumns (assignee : Option ℕ) (queue : Option Queue) : List Column :=
  [.escalationCount, .escalatedAt] ++
    (if assignee.isSome then [.assignee, .assignedBy, .assignedAt] else []) ++
    (if queue.isSome then [.queue] else [])

theorem escalatedTicket_confined (assignee : Option ℕ) (queue : Option Queue) :
    Confined (escalatedColumns assignee queue) (escalatedTicket caller assignee queue) := by
  intro ticket
  cases assignee with
  | none =>
    cases queue with
    | none => rfl
    | some queue => rfl
  | some user =>
    cases queue with
    | none => rfl
    | some queue => rfl

theorem escalate_within (latitude : Latitude loose steady) (held : Held base loose inst)
    {assignee : Option ℕ} {queue : Option Queue}
    (hcolumns : ∀ c ∈ escalatedColumns assignee queue, loose (.column c))
    (hextend : ∀ saved, Held base loose saved → (site.ws.policyFor saved.ticket.priority).isSome →
      ∀ c ∈ extensionColumns, loose (.column c)) :
    Within base loose steady (escalate site caller assignee queue inst) := by
  unfold escalate
  split
  · exact .fail _
  · refine Within.bind (saveColumns_within latitude ?_ _ ?_) fun saved held => ?_
    · exact held.modify _ (escalatedTicket_confined assignee queue) hcolumns
    · intro c hc
      by_cases hupdated : c = .updatedAt
      · rw [hupdated]
        exact latitude.updatedAt
      · apply hcolumns
        simp only [List.mem_append, List.mem_cons, List.not_mem_nil, or_false, hupdated,
          escalatedColumns] at hc ⊢
        exact hc
    · exact extendDeadlines_within latitude held (hextend saved held)

theorem addTag_within (latitude : Latitude loose steady) (held : Held base loose inst)
    {tags : List String} (hloose : loose (.column .tags)) :
    Within base loose steady (addTag site caller tags inst) := by
  apply saveColumns_within latitude (held.modify [.tags] (fun _ => rfl)
    (by simpa using hloose)) [.tags, .updatedAt]
  · simpa using ⟨hloose, latitude.updatedAt⟩

theorem resumeForReply_within (latitude : Latitude loose steady) (held : Held base loose inst)
    {inbound : InboundReply}
    (hloose : inbound.fromCustomer = true → ∀ c ∈ clockColumns, loose (.column c)) :
    Within base loose steady (resumeForReply site caller inbound inst) := by
  unfold resumeForReply
  split
  · rename_i hcustomer
    have hclock := hloose hcustomer
    refine resumePause_meets ⟨?_, ?_, ?_⟩ caller.req.clock.postSave held
    · intro inst columns edit confined hcolumns held
      exact held.modify _ confined fun c hc => hclock c (hcolumns hc)
    · intro inst columns hcolumns held
      apply saveColumns_within latitude held
      intro c hc
      rcases List.mem_cons.mp (hcolumns hc) with rfl | hmem
      · exact latitude.updatedAt
      · exact hclock c hmem
    · exact fun hpause key hlists => absurd hlists (hpause key)
  · exact .done held

theorem whenSome_within {α : Type} {edit : α → TicketRow → Routine TicketRow} {value : Option α}
    (held : Held base loose inst)
    (hedit : ∀ a, value = some a → Within base loose steady (edit a inst)) :
    Within base loose steady (whenSome edit value inst) := by
  cases value with
  | none => exact .done held
  | some a => exact hedit a rfl

theorem addReply_within (latitude : Latitude loose steady) (held : Held base loose inst)
    {inbound : InboundReply} (hblank : inbound.bodyIsBlank = false →
      inbound.fromCustomer = true → ∀ c ∈ clockColumns, loose (.column c))
    (hreopen : inbound.bodyIsBlank = false → ∀ resumed, Held base loose resumed →
      (reopenTarget site resumed.ticket).isSome → StatusLoose loose) :
    Within base loose steady (addReply site caller inbound inst) := by
  unfold addReply
  split
  · exact .done held
  · rename_i hbody
    rw [Bool.not_eq_true] at hbody
    refine Within.bind (resumeForReply_within latitude held (hblank hbody)) fun resumed held => ?_
    apply whenSome_within held
    intro target htarget
    apply changeStatus_within latitude held
    intro _
    exact hreopen hbody resumed held (by rw [htarget]; rfl)

end Services

/-! ## What is written as submitted -/

/-- A routine writes this column, or keeps it, as loaded until it writes it as wished. -/
def Delivers {α : Type} (key : Key) (loaded wish : TicketRow) (routine : Routine α) : Prop :=
  routine.Pending (fun statement => statement.lists key)
    (fun statement => statement.Puts key loaded) (fun statement => statement.Puts key wish)

def Mute {α : Type} (key : Key) (routine : Routine α) : Prop :=
  routine.Quiet fun statement => statement.lists key

section Delivery

variable {site : Site} {caller : Caller} {loaded wish inst : TicketRow} {key : Key}

theorem latitude_ne (hkey : ¬Restamped False key) : Latitude (· ≠ key) False where
  restamped := by
    rintro _ hrestamped rfl
    exact hkey hrestamped
  status := False.elim

/-- A routine leaves this column alone, in the store and in the instance. -/
def Skips (key : Key) (inst : TicketRow) (routine : Routine TicketRow) : Prop :=
  routine.Meets (fun _ => True) (fun statement => ¬statement.lists key)
    fun saved => key.Same saved inst

theorem Within.skips {routine : Routine TicketRow} (hcompany : key ≠ .company)
    (within : Within inst (· ≠ key) False routine) : Skips key inst routine :=
  Program.Meets.mono within (fun _ _ h => h.elim) (fun _ hlists h => hlists key h rfl)
    fun _ held => held key hcompany fun h => h rfl

theorem Within.mute {routine : Routine TicketRow} {base : TicketRow}
    (within : Within base (· ≠ key) False routine) : Mute key routine :=
  Program.Meets.mono within (fun _ _ h => h.elim) (fun _ hlists h => hlists key h rfl)
    fun _ _ => trivial

theorem Mute.bind {α β : Type} {routine : Routine α} {rest : α → Routine β}
    (mute : Mute key routine) (hrest : ∀ result, Mute key (rest result)) :
    Mute key (routine.bind rest) :=
  Program.Quiet.bind_of_meets mute mute fun result _ => hrest result

theorem Skips.mute {routine : Routine TicketRow} (skips : Skips key inst routine) :
    Mute key routine :=
  Program.Meets.mono skips (fun _ h => h) (fun _ h => h) fun _ _ => trivial

theorem Skips.delivers {routine : Routine TicketRow} {rest : TicketRow → Routine TicketRow}
    (skips : Skips key inst routine)
    (hrest : ∀ saved, key.Same saved inst → Delivers key loaded wish (rest saved)) :
    Delivers key loaded wish (routine.bind rest) :=
  Program.Pending.bind_right
    (Program.Meets.mono skips (fun _ h => h) (fun _ silent lists => absurd lists silent)
      fun _ h => h) hrest

theorem saveKeys_delivers {keys : List Key} (hmem : key ∈ keys) (hkey : ¬Restamped False key)
    (hwish : key.Same (inst.fillCompany site) wish) :
    Delivers key loaded wish (saveKeys site caller keys inst) := by
  unfold saveKeys
  cases site.recursionLimit with
  | zero => exact .fail _
  | succ depth =>
    unfold saveTicket
    simp only [Program.bind_eq, Program.stored_bind, Program.perform_bind]
    refine .read fun store => .last hmem ?_ ?_
    · exact Key.Same.trans (preSave_same _ _ _ (fun h : False => h.elim) hkey) hwish
    · refine (pauseOnStatusChange_meets (clockSaves_of_meets
        (saveTicket_meets False depth) _) store.row.ticket.status _ (.refl _ _)).mono
        (fun _ h => h) (fun statement hstatement hlists => ?_) fun _ _ => trivial
      exact hkey (hstatement key hlists)

theorem saveKeys_returns (keys : List Key) (inst : TicketRow) :
    (saveKeys site caller keys inst).Meets (fun _ => True) (fun _ => True)
      (Retains False inst) :=
  (saveTicket_meets False site.recursionLimit keys inst).mono (fun _ _ h => h.elim)
    (fun _ _ => trivial) fun _ h => h

theorem saveTicketDraft_delivers {draft : Draft} {c : Column} (hmem : c ∈ draft.updateFields)
    (hkey : ¬Restamped False (.column c)) (hwish : c.Same draft.ticket wish.ticket) :
    Delivers (.column c) loaded wish (saveTicketDraft site caller draft inst) := by
  apply saveKeys_delivers (List.mem_map_of_mem hmem) hkey
  exact Key.Same.trans (fillCompany_same site _ (by simp)) hwish

theorem hook_skips {hook : Routine PUnit} (within : HookWithin (· ≠ key) hook) :
    hook.Meets (fun _ => True) (fun statement => ¬statement.lists key) fun _ => True :=
  (within _).mono (fun _ h => h) (fun _ hlists h => hlists key h rfl) fun _ _ => trivial

theorem changeStatus_delivers (site : Site) (caller : Caller) (loaded : TicketRow)
    {newStatus : TicketStatus} (hmoves : inst.ticket.status ≠ newStatus) (hwish : wish.ticket.status = newStatus) :
    Delivers (.column .status) loaded wish (changeStatus site caller newStatus inst) ∧
      (changeStatus site caller newStatus inst).Meets (fun _ => True) (fun _ => True)
        fun saved => saved.ticket.status = newStatus := by
  unfold changeStatus
  dsimp only
  rw [if_neg hmoves]
  have hresolved : ∀ saved, (scheduleResolvedTasks caller inst.ticket.status newStatus saved).Meets
      (fun _ => True) (fun statement => ¬statement.lists (.column .status)) fun _ => True :=
    fun saved => hook_skips (scheduleResolvedTasks_within (by decide) _ _)
  have hclosed : ∀ saved, (emitClosedSignal site inst.ticket.status newStatus saved).Meets
      (fun _ => True) (fun statement => ¬statement.lists (.column .status)) fun _ => True :=
    fun saved => hook_skips (emitClosedSignal_within (by decide) _ _)
  constructor
  · refine Program.Pending.bind_left (saveTicketDraft_delivers status_mem_statusDraft
      (not_restamped_status False) ?_) (saveKeys_returns _ _) fun saved _ => ?_
    · exact statusDraft_status.trans hwish.symm
    · exact (hresolved saved).bind fun _ _ => (hclosed saved).bind fun _ _ => .done trivial
  · refine Program.Meets.bind (saveKeys_returns _ _) fun saved retains => ?_
    have hstatus := retains (.column .status) (by decide) (not_restamped_status False)
    refine Program.Meets.bind ((hresolved saved).mono (fun _ h => h) (fun _ _ => trivial)
      fun _ h => h) fun _ _ => ?_
    refine Program.Meets.bind ((hclosed saved).mono (fun _ h => h) (fun _ _ => trivial)
      fun _ h => h) fun _ _ => ?_
    exact .done (Eq.trans hstatus statusDraft_status)

theorem transitionStatus_delivers (site : Site) (caller : Caller) (loaded : TicketRow)
    {newStatus : TicketStatus} (hmoves : inst.ticket.status ≠ newStatus) (hwish : wish.ticket.status = newStatus) :
    Delivers (.column .status) loaded wish (transitionStatus site caller newStatus inst) ∧
      (transitionStatus site caller newStatus inst).Meets (fun _ => True) (fun _ => True)
        fun saved => saved.ticket.status = newStatus := by
  obtain ⟨delivers, returns⟩ := changeStatus_delivers site caller loaded hmoves hwish
  exact ⟨Program.Pending.bind_right (Program.meets_ofExcept fun _ _ => trivial)
      fun _ (_ : True) => delivers,
    Program.Meets.bind (Program.meets_ofExcept fun _ _ => trivial) fun _ (_ : True) => returns⟩

theorem assignTo_delivers {assignee : ℕ} (hwish : wish.ticket.assignee = some assignee) :
    Delivers (.column .assignee) loaded wish (assignTo site caller assignee inst) := by
  unfold assignTo
  split
  · exact .fail _
  · apply saveTicketDraft_delivers
    · simp [assignDraft]
    · exact not_restamped (by decide) (by decide) False
    · exact hwish.symm

theorem changePriority_delivers {newPriority : Priority}
    (hmoves : inst.ticket.priority ≠ newPriority) (hwish : wish.ticket.priority = newPriority) :
    Delivers (.column .priority) loaded wish (changePriority site caller newPriority inst) := by
  unfold changePriority
  rw [if_neg hmoves]
  apply saveKeys_delivers (by decide)
  · exact not_restamped (by decide) (by decide) False
  · exact Key.Same.trans (fillCompany_same site _ (by decide)) hwish.symm

end Delivery

end Kanzan.Tickets

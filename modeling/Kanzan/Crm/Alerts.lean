import Kanzan.Crm.Reminders

/-!
# Alerts of due reminders

At most one alert for each reminder and time, none for a reminder that is completed or cancelled,
and none missed, as long as the stamps of the ticks are not stale.
-/

namespace Kanzan.Crm

open Support

/-! ## What a worker holds -/

def Worker.sent? : Worker → Option Alert
  | .sending _ _ _ alert => some alert
  | _ => none

def Worker.candidates : Worker → List (ℕ × Reminder)
  | .ticking _ _ candidates | .sending _ _ candidates _ => candidates
  | _ => []

def Worker.tenants : Worker → List ℕ
  | .ticking _ tenants _ | .sending _ tenants _ _ => tenants
  | _ => []

def Worker.now : Worker → ℕ
  | .ticking now _ _ | .sending now _ _ _ => now
  | _ => 0

def Worker.isIdle : Worker → Bool
  | .ready | .editing .. | .done => true
  | _ => false

section Worker

variable {worker : Worker} {now : ℕ} {tenants : List ℕ} {candidates : List (ℕ × Reminder)}

theorem Worker.sent_of_isIdle (hidle : worker.isIdle = true) : worker.sent? = none := by
  cases worker <;> first | rfl | cases hidle

theorem Worker.candidates_of_isIdle (hidle : worker.isIdle = true) : worker.candidates = [] := by
  cases worker <;> first | rfl | cases hidle

theorem Worker.tenants_of_isIdle (hidle : worker.isIdle = true) : worker.tenants = [] := by
  cases worker <;> first | rfl | cases hidle

@[simp]
theorem sent_settled : (settled now tenants candidates).sent? = none := by
  cases tenants <;> cases candidates <;> rfl

@[simp]
theorem candidates_settled : (settled now tenants candidates).candidates = candidates := by
  cases tenants <;> cases candidates <;> rfl

@[simp]
theorem tenants_settled : (settled now tenants candidates).tenants = tenants := by
  cases tenants <;> cases candidates <;> rfl

theorem now_settled (hleft : tenants ≠ [] ∨ candidates ≠ []) :
    (settled now tenants candidates).now = now := by
  cases tenants with
  | cons tenant tenants => rfl
  | nil =>
    cases candidates with
    | cons candidate candidates => rfl
    | nil => exact absurd hleft (by simp)

end Worker

/-! ## Stale stamps -/

/-- A row that a tick may stamp: it is open, it was not stamped since the time for which the tick
has read it, and it is not due at another time. -/
def stampsDue (now scheduledAt : ℕ) (row : Reminder) : Bool :=
  row.isOpen && row.notifiedBefore scheduledAt && (!row.isDue now || row.scheduledAt == scheduledAt)

/-- A tick stamps what is still due as it has read it, and a `PATCH` writes back the stamp that the
row has. -/
def guarded (desk : Desk) : Worker → Action → Bool
  | .ticking now _ ((pk, reminder) :: _), .stamp =>
    (desk.rows pk).any (stampsDue now reminder.scheduledAt)
  | .editing pk reminder, .patch _ =>
    (desk.rows pk).all fun row => row.dueNotifiedAt == reminder.dueNotifiedAt
  | _, _ => true

/-- What a guarded turn does. -/
inductive Turned (tenantOf : ℕ → ℕ) (desk : Desk) : Worker → Desk → Worker → Prop where
  | rests (worker : Worker) : Turned tenantOf desk worker desk worker
  | goes (worker after : Worker) (hbefore : worker.isIdle = true) (hafter : after.isIdle = true) :
      Turned tenantOf desk worker desk after
  | edits (worker : Worker) (f : ℕ → Reminder → Reminder) (hbefore : worker.isIdle = true)
      (hkeeps : ∀ pk row, desk.rows pk = some row →
        (f pk row).dueNotifiedAt = row.dueNotifiedAt) :
      Turned tenantOf desk worker (desk.update f) .done
  | inserts (worker : Worker) (pk : ℕ) (reminder : Reminder) (hbefore : worker.isIdle = true)
      (hnew : desk.rows pk = none) : Turned tenantOf desk worker (desk.insert pk reminder) .done
  | begins (now : ℕ) (tenants : List ℕ) :
      Turned tenantOf desk .ready desk (settled now tenants [])
  | selects (now tenant : ℕ) (tenants : List ℕ) :
      Turned tenantOf desk (.ticking now (tenant :: tenants) []) desk
        (settled now tenants (dueReminders tenantOf desk tenant now))
  | stamps (now : ℕ) (tenants : List ℕ) (pk : ℕ) (reminder row : Reminder)
      (candidates : List (ℕ × Reminder)) (hrow : desk.rows pk = some row)
      (hdue : stampsDue now reminder.scheduledAt row = true) :
      Turned tenantOf desk (.ticking now tenants ((pk, reminder) :: candidates))
        (desk.modify pk fun row => { row with dueNotifiedAt := some now })
        (.sending now tenants candidates (alertOf pk reminder true))
  | sends (now : ℕ) (tenants : List ℕ) (candidates : List (ℕ × Reminder)) (alert : Alert) :
      Turned tenantOf desk (.sending now tenants candidates alert)
        { desk with alerts := desk.alerts ++ [alert] } (settled now tenants candidates)

variable {event : ℕ × Action} {events : List (ℕ × Action)} {action : Action}

section Turned

variable {tenantOf : ℕ → ℕ} {desk : Desk} {worker : Worker} {pk : ℕ} {row : Reminder}

@[simp]
theorem rows_update (f : ℕ → Reminder → Reminder) (pk : ℕ) :
    (desk.update f).rows pk = (desk.rows pk).map (f pk) := rfl

theorem rows_modify (f : Reminder → Reminder) (other : ℕ) (hrow : desk.rows pk = some row) :
    (desk.modify other f).rows pk = some (if pk = other then f row else row) := by
  simp [Desk.modify, Desk.update, hrow]

theorem turned_modify (hidle : worker.isIdle = true) (other : ℕ) (f : Reminder → Reminder)
    (hkeeps : ∀ row, desk.rows other = some row → (f row).dueNotifiedAt = row.dueNotifiedAt) :
    Turned tenantOf desk worker (desk.modify other f) .done := by
  refine .edits worker _ hidle fun pk row hrow => ?_
  split
  · rename_i heq
    subst heq
    exact hkeeps row hrow
  · rfl

theorem BulkAction.dueNotifiedAt_apply (action : BulkAction) (reminder : Reminder) :
    (action.apply reminder).dueNotifiedAt = reminder.dueNotifiedAt := by
  cases action with
  | complete | cancel | reschedule =>
    rw [BulkAction.apply]
    split <;> rfl
  | reassign => rfl

theorem turned_act (name : ℕ) (hguarded : guarded desk worker action = true) :
    Turned tenantOf desk worker (act tenantOf name desk worker action).1
      (act tenantOf name desk worker action).2 := by
  cases action with
  | begin now tenants =>
    cases worker with
    | ready => exact .begins now tenants
    | ticking | sending | editing | done => exact .rests _
  | select =>
    match worker with
    | .ticking now (tenant :: tenants) [] => exact .selects now tenant tenants
    | .ticking _ [] _ | .ticking _ (_ :: _) (_ :: _) => exact .rests _
    | .ready | .sending .. | .editing .. | .done => exact .rests _
  | stamp =>
    match worker with
    | .ticking now tenants ((pk, reminder) :: candidates) =>
      rw [guarded] at hguarded
      rw [act]
      cases hrow : desk.rows pk with
      | none =>
        rw [hrow] at hguarded
        cases hguarded
      | some row =>
        rw [hrow, Option.any_some] at hguarded
        have hopen : row.isOpen = true := by
          rw [stampsDue, Bool.and_eq_true, Bool.and_eq_true] at hguarded
          exact hguarded.1.1
        rw [Option.any_some, hopen]
        exact .stamps now tenants pk reminder row candidates hrow hguarded
    | .ticking now tenants [] => exact .rests _
    | .ready | .sending .. | .editing .. | .done => exact .rests _
  | send =>
    cases worker with
    | sending now tenants candidates alert => exact .sends now tenants candidates alert
    | ready | ticking | editing | done => exact .rests _
  | get pk =>
    cases worker with
    | ready =>
      rw [act]
      cases desk.rows pk with
      | none => exact .goes _ _ rfl rfl
      | some reminder => exact .goes _ _ rfl rfl
    | ticking | sending | editing | done => exact .rests _
  | complete now =>
    cases worker with
    | editing pk reminder =>
      rw [act]
      split
      · exact turned_modify rfl pk _ fun _ _ => rfl
      · exact .goes _ _ rfl rfl
    | ready | ticking | sending | done => exact .rests _
  | cancel now =>
    cases worker with
    | editing pk reminder =>
      rw [act]
      split
      · exact turned_modify rfl pk _ fun _ _ => rfl
      · exact .goes _ _ rfl rfl
    | ready | ticking | sending | done => exact .rests _
  | reschedule newScheduledAt =>
    cases worker with
    | editing pk reminder =>
      rw [act]
      split
      · exact turned_modify rfl pk _ fun _ _ => rfl
      · exact .goes _ _ rfl rfl
    | ready | ticking | sending | done => exact .rests _
  | patch changes =>
    cases worker with
    | editing pk reminder =>
      refine turned_modify rfl pk _ fun row hrow => ?_
      rw [guarded, hrow, Option.all_some] at hguarded
      exact (eq_of_beq hguarded).symm
    | ready | ticking | sending | done => exact .rests _
  | bulkAction ids action =>
    cases worker with
    | ready =>
      rw [act]
      split
      · refine .edits _ _ rfl fun pk row _ => ?_
        split
        · exact action.dueNotifiedAt_apply row
        · rfl
      · exact .goes _ _ rfl rfl
    | ticking | sending | editing | done => exact .rests _
  | create pk reminder =>
    cases worker with
    | ready =>
      rw [act]
      split
      · rename_i hnone
        exact .inserts _ pk _ rfl (Option.isNone_iff_eq_none.mp hnone)
      · exact .goes _ _ rfl rfl
    | ticking | sending | editing | done => exact .rests _

end Turned

/-! ## At most one alert -/

def Marked (desk : Desk) (alert : Alert) : Prop :=
  ∃ row dueNotifiedAt, desk.rows alert.reminder = some row ∧
    row.dueNotifiedAt = some dueNotifiedAt ∧ alert.scheduledAt ≤ dueNotifiedAt

def Worker.Selected (worker : Worker) : Prop :=
  ∀ candidate ∈ worker.candidates, candidate.2.scheduledAt ≤ worker.now

/-- What guarded turns keep. -/
structure Watched (world : World Desk Worker) : Prop where
  listed : Listed world.shared.rows world.shared.pks
  selected : ∀ worker, (world.locals worker).Selected
  sent : ∀ alert ∈ world.shared.alerts, Marked world.shared alert ∧ alert.wasOpen = true
  sending : ∀ worker alert, (world.locals worker).sent? = some alert →
    Marked world.shared alert ∧ alert.wasOpen = true ∧
      ∀ other ∈ world.shared.alerts, other.key ≠ alert.key
  distinct : ∀ worker other alert another, worker ≠ other →
    (world.locals worker).sent? = some alert → (world.locals other).sent? = some another →
      alert.key ≠ another.key
  nodup : (world.shared.alerts.map Alert.key).Nodup

section Marks

variable {tenantOf : ℕ → ℕ} {desk after : Desk} {worker worker' : Worker} {alert : Alert}
variable {scheduledAt : ℕ} {row : Reminder}

theorem ne_key_of_marked {pk : ℕ} (hrow : desk.rows pk = some row)
    (hbefore : row.notifiedBefore scheduledAt = true) (marked : Marked desk alert) :
    alert.key ≠ (pk, scheduledAt) := by
  rintro hkey
  obtain ⟨hpk, hscheduled⟩ := Prod.mk.inj hkey
  obtain ⟨found, dueNotifiedAt, hfound, hstamp, hle⟩ := marked
  rw [hpk, hrow] at hfound
  rw [← Option.some.inj hfound] at hstamp
  rw [Reminder.notifiedBefore, hstamp, ← hscheduled] at hbefore
  exact absurd (of_decide_eq_true hbefore) (by omega)

theorem stampsDue_iff {now : ℕ} :
    stampsDue now scheduledAt row = true ↔
      row.isOpen = true ∧ row.notifiedBefore scheduledAt = true ∧
        (row.isDue now = true → row.scheduledAt = scheduledAt) := by
  rw [stampsDue, Bool.and_eq_true, Bool.and_eq_true, and_assoc]
  simp only [Bool.or_eq_true, Bool.not_eq_true', beq_iff_eq, ← Bool.not_eq_true, imp_iff_not_or]

/-- A stamp never moves back. -/
theorem Marked.turned (marked : Marked desk alert) (selected : worker.Selected)
    (turned : Turned tenantOf desk worker after worker') : Marked after alert := by
  obtain ⟨row, dueNotifiedAt, hrow, hstamp, hle⟩ := marked
  cases turned with
  | rests | goes | begins | selects | sends => exact ⟨row, dueNotifiedAt, hrow, hstamp, hle⟩
  | edits _ f hbefore hkeeps =>
    refine ⟨f alert.reminder row, dueNotifiedAt, ?_, (hkeeps _ row hrow).trans hstamp, hle⟩
    rw [rows_update, hrow, Option.map_some]
  | inserts _ pk reminder hbefore hnew =>
    have hne : alert.reminder ≠ pk := by
      rintro rfl
      rw [hnew] at hrow
      cases hrow
    exact ⟨row, dueNotifiedAt, (if_neg hne).trans hrow, hstamp, hle⟩
  | stamps now tenants pk reminder found candidates hfound hdue =>
    have hrow' := rows_modify (fun row => { row with dueNotifiedAt := some now }) pk hrow
    by_cases heq : alert.reminder = pk
    · rw [if_pos heq] at hrow'
      refine ⟨_, now, hrow', rfl, ?_⟩
      have hscheduled : reminder.scheduledAt ≤ now := selected (pk, reminder) List.mem_cons_self
      rw [heq, hfound] at hrow
      have hbefore := (stampsDue_iff.mp hdue).2.1
      rw [Option.some.inj hrow, Reminder.notifiedBefore, hstamp] at hbefore
      have hlt := of_decide_eq_true hbefore
      omega
    · rw [if_neg heq] at hrow'
      exact ⟨row, dueNotifiedAt, hrow', hstamp, hle⟩

theorem mem_dueReminders {tenant now pk : ℕ} {reminder : Reminder} :
    (pk, reminder) ∈ dueReminders tenantOf desk tenant now ↔
      pk ∈ desk.pks ∧ desk.rows pk = some reminder ∧ tenantOf pk = tenant ∧
        reminder.isDue now = true := by
  rw [dueReminders, (List.perm_insertionSort _ _).mem_iff, List.mem_filterMap]
  constructor
  · rintro ⟨key, hmem, hselected⟩
    obtain ⟨row, hrow, hif⟩ := Option.bind_eq_some_iff.mp hselected
    split at hif
    · rename_i hdue
      obtain ⟨rfl, rfl⟩ := Prod.mk.inj (Option.some.inj hif)
      exact ⟨hmem, hrow, hdue⟩
    · cases hif
  · rintro ⟨hmem, hrow, hdue⟩
    refine ⟨pk, hmem, ?_⟩
    rw [hrow, Option.bind_some, if_pos hdue]

theorem sent_turned (selected : worker.Selected)
    (turned : Turned tenantOf desk worker after worker') (hsent : worker'.sent? = some alert) :
    worker.sent? = some alert ∨
      (Marked after alert ∧ alert.wasOpen = true ∧
        ∀ other, Marked desk other → other.key ≠ alert.key) := by
  cases turned with
  | rests => exact .inl hsent
  | goes _ _ hbefore hafter =>
    rw [Worker.sent_of_isIdle hafter] at hsent
    cases hsent
  | edits | inserts => cases hsent
  | begins | selects | sends =>
    rw [sent_settled] at hsent
    cases hsent
  | stamps now tenants pk reminder row candidates hrow hdue =>
    obtain rfl := Option.some.inj hsent
    have hscheduled : reminder.scheduledAt ≤ now := selected (pk, reminder) List.mem_cons_self
    have hrow' := rows_modify (fun row => { row with dueNotifiedAt := some now }) pk hrow
    rw [if_pos rfl] at hrow'
    refine .inr ⟨⟨_, now, hrow', rfl, hscheduled⟩, rfl, fun other marked => ?_⟩
    exact ne_key_of_marked hrow (stampsDue_iff.mp hdue).2.1 marked

theorem alerts_turned (turned : Turned tenantOf desk worker after worker') :
    after.alerts = desk.alerts ∨
      ∃ alert, worker.sent? = some alert ∧ after.alerts = desk.alerts ++ [alert] ∧
        worker'.sent? = none := by
  cases turned with
  | rests | goes | edits | inserts | begins | selects | stamps => exact .inl rfl
  | sends now tenants candidates alert => exact .inr ⟨alert, rfl, rfl, sent_settled⟩

theorem selected_turned (selected : worker.Selected)
    (turned : Turned tenantOf desk worker after worker') : worker'.Selected := by
  intro candidate hmem
  cases turned with
  | rests => exact selected candidate hmem
  | goes _ _ hbefore hafter =>
    rw [Worker.candidates_of_isIdle hafter] at hmem
    cases hmem
  | edits | inserts => cases hmem
  | begins =>
    rw [candidates_settled] at hmem
    cases hmem
  | selects now tenant tenants =>
    rw [candidates_settled] at hmem
    rw [now_settled (.inr (List.ne_nil_of_mem hmem))]
    obtain ⟨pk, reminder⟩ := candidate
    have hdue := (mem_dueReminders.mp hmem).2.2.2
    rw [Reminder.isDue, Bool.and_eq_true, Bool.and_eq_true] at hdue
    exact of_decide_eq_true hdue.1.1
  | stamps => exact selected candidate (List.mem_cons_of_mem _ hmem)
  | sends =>
    rw [candidates_settled] at hmem
    rw [now_settled (.inr (List.ne_nil_of_mem hmem))]
    exact selected candidate hmem

theorem listed_turned (listed : Listed desk.rows desk.pks)
    (turned : Turned tenantOf desk worker after worker') : Listed after.rows after.pks := by
  cases turned with
  | rests | goes | begins | selects | sends => exact listed
  | edits | stamps => exact listed.of_isSome fun pk => by simp [Desk.modify]
  | inserts _ pk reminder hbefore hnew =>
    exact listed.insert hnew (if_pos rfl) fun other hne => if_neg hne

end Marks

section Turns

variable {tenantOf : ℕ → ℕ} {world : World Desk Worker}

def Guarded (world : World Desk Worker) (event : ℕ × Action) : Prop :=
  guarded world.shared (world.locals event.1) event.2 = true

instance (world : World Desk Worker) (event : ℕ × Action) : Decidable (Guarded world event) :=
  inferInstanceAs (Decidable (_ = _))

theorem turned_turn {name : ℕ} (hguarded : Guarded world (name, action)) :
    Turned tenantOf world.shared (world.locals name)
      (world.turn (act tenantOf) (name, action)).shared
      ((world.turn (act tenantOf) (name, action)).locals name) := by
  rw [World.turn_shared, World.turn_locals_self]
  exact turned_act name hguarded

theorem Watched.turn (watched : Watched world) (hguarded : Guarded world event) :
    Watched (world.turn (act tenantOf) event) := by
  obtain ⟨name, action⟩ := event
  have turned : Turned tenantOf world.shared (world.locals name) _ _ := turned_turn hguarded
  have hothers : ∀ other, other ≠ name →
      (world.turn (act tenantOf) (name, action)).locals other = world.locals other :=
    fun other hne => World.turn_locals_of_ne world action hne
  have marked : ∀ alert, Marked world.shared alert →
      Marked (world.turn (act tenantOf) (name, action)).shared alert :=
    fun alert hmarked => hmarked.turned (watched.selected name) turned
  generalize world.turn (act tenantOf) (name, action) = next at turned hothers marked ⊢
  have hfresh : ∀ alert, (next.locals name).sent? = some alert →
      (world.locals name).sent? ≠ some alert →
        Marked next.shared alert ∧ alert.wasOpen = true ∧
          ∀ other, Marked world.shared other → other.key ≠ alert.key := by
    intro alert hsent hnew
    exact (sent_turned (watched.selected name) turned hsent).resolve_left hnew
  have hsent : ∀ alert ∈ next.shared.alerts, alert ∈ world.shared.alerts ∨
      ((world.locals name).sent? = some alert ∧ (next.locals name).sent? = none) := by
    intro alert hmem
    rcases alerts_turned turned with hsame | ⟨held, hheld, happend, hnone⟩
    · exact .inl (hsame ▸ hmem)
    · rw [happend, List.mem_append, List.mem_singleton] at hmem
      rcases hmem with hmem | rfl
      · exact .inl hmem
      · exact .inr ⟨hheld, hnone⟩
  constructor
  · exact listed_turned watched.listed turned
  · intro worker
    by_cases hname : worker = name
    · rw [hname]
      exact selected_turned (watched.selected name) turned
    · rw [hothers worker hname]
      exact watched.selected worker
  · intro alert hmem
    rcases hsent alert hmem with hmem | ⟨hheld, -⟩
    · exact ⟨marked alert (watched.sent alert hmem).1, (watched.sent alert hmem).2⟩
    · obtain ⟨hmarked, hopen, -⟩ := watched.sending name alert hheld
      exact ⟨marked alert hmarked, hopen⟩
  · intro worker alert hheld
    by_cases hname : worker = name
    · rw [hname] at hheld
      have hkept : ∀ other ∈ next.shared.alerts, other ∈ world.shared.alerts := by
        intro other hmem
        refine (hsent other hmem).resolve_right fun hgone => ?_
        rw [hgone.2] at hheld
        cases hheld
      by_cases hsame : (world.locals name).sent? = some alert
      · obtain ⟨hmarked, hopen, hne⟩ := watched.sending name alert hsame
        exact ⟨marked alert hmarked, hopen, fun other hmem => hne other (hkept other hmem)⟩
      · obtain ⟨hmarked, hopen, hne⟩ := hfresh alert hheld hsame
        exact ⟨hmarked, hopen, fun other hmem =>
          hne other (watched.sent other (hkept other hmem)).1⟩
    · rw [hothers worker hname] at hheld
      obtain ⟨hmarked, hopen, hne⟩ := watched.sending worker alert hheld
      refine ⟨marked alert hmarked, hopen, fun other hmem => ?_⟩
      rcases hsent other hmem with hmem | ⟨hother, -⟩
      · exact hne other hmem
      · exact watched.distinct name worker other alert (Ne.symm hname) hother hheld
  · have hself : ∀ worker alert another, worker ≠ name → (next.locals name).sent? = some alert →
        (world.locals worker).sent? = some another → alert.key ≠ another.key := by
      intro worker alert another hname hheld hother
      by_cases hsame : (world.locals name).sent? = some alert
      · exact watched.distinct name worker alert another (Ne.symm hname) hsame hother
      · exact ((hfresh alert hheld hsame).2.2 another
          (watched.sending worker another hother).1).symm
    intro worker other alert another hne hheld hother
    by_cases hname : worker = name
    · rw [hname] at hheld hne
      rw [hothers other (Ne.symm hne)] at hother
      exact hself other alert another (Ne.symm hne) hheld hother
    · rw [hothers worker hname] at hheld
      by_cases hname' : other = name
      · rw [hname'] at hother
        exact (hself worker another alert hname hother hheld).symm
      · rw [hothers other hname'] at hother
        exact watched.distinct worker other alert another hne hheld hother
  · rcases alerts_turned turned with hsame | ⟨alert, hheld, happend, -⟩
    · rw [hsame]
      exact watched.nodup
    · rw [happend, List.map_append, List.map_singleton]
      refine List.nodup_append.mpr ⟨watched.nodup, List.nodup_singleton _, ?_⟩
      intro key hkey other hother
      obtain ⟨sent, hmem, rfl⟩ := List.mem_map.mp hkey
      rw [List.mem_singleton.mp hother]
      exact (watched.sending name alert hheld).2.2 sent hmem

end Turns

/-! ## No alert is missed -/

def Alerted (world : World Desk Worker) (key : ℕ × ℕ) : Prop :=
  (∃ alert ∈ world.shared.alerts, alert.key = key) ∨
    ∃ worker alert, (world.locals worker).sent? = some alert ∧ alert.key = key

def Stays (pk scheduledAt : ℕ) (world : World Desk Worker) : Prop :=
  ∃ row, world.shared.rows pk = some row ∧ row.isOpen = true ∧ row.scheduledAt = scheduledAt

/-- A reminder without a late stamp that a tick has before it. -/
structure Owed (tenantOf : ℕ → ℕ) (tick pk scheduledAt : ℕ) (world : World Desk Worker) :
    Prop where
  armed : ∀ row, world.shared.rows pk = some row → row.notifiedBefore scheduledAt = true
  past : scheduledAt ≤ (world.locals tick).now
  queued : tenantOf pk ∈ (world.locals tick).tenants ∨
    ∃ reminder, (pk, reminder) ∈ (world.locals tick).candidates ∧
      reminder.scheduledAt = scheduledAt

section Owed

variable {tenantOf : ℕ → ℕ} {world : World Desk Worker} {tick pk scheduledAt : ℕ}
variable {desk after : Desk} {worker worker' : Worker} {row : Reminder}

theorem held_turned {alert : Alert} (turned : Turned tenantOf desk worker after worker')
    (hheld : worker.sent? = some alert) : worker'.sent? = some alert ∨ alert ∈ after.alerts := by
  cases turned with
  | rests => exact .inl hheld
  | goes _ _ hbefore | edits _ _ hbefore | inserts _ _ _ hbefore =>
    rw [Worker.sent_of_isIdle hbefore] at hheld
    cases hheld
  | begins | selects | stamps => cases hheld
  | sends now tenants candidates held =>
    obtain rfl := Option.some.inj hheld
    exact .inr (List.mem_append_right _ (List.mem_singleton_self _))

/-- A row that is due at the time stays without a late stamp, unless it is stamped for the time. -/
theorem armed_turned (turned : Turned tenantOf desk worker after worker')
    (hrow : desk.rows pk = some row) (hopen : row.isOpen = true)
    (hscheduled : row.scheduledAt = scheduledAt) (hbefore : row.notifiedBefore scheduledAt = true) :
    (∀ row', after.rows pk = some row' → row'.notifiedBefore scheduledAt = true) ∨
      ∃ alert, worker'.sent? = some alert ∧ alert.key = (pk, scheduledAt) := by
  cases turned with
  | rests | goes | begins | selects | sends =>
    refine .inl fun row' hrow' => ?_
    rw [← Option.some.inj (hrow.symm.trans hrow')]
    exact hbefore
  | edits _ f hidle hkeeps =>
    refine .inl fun row' hrow' => ?_
    rw [rows_update, hrow, Option.map_some] at hrow'
    rw [← Option.some.inj hrow', Reminder.notifiedBefore, hkeeps pk row hrow]
    exact hbefore
  | inserts _ new reminder hidle hnew =>
    refine .inl fun row' hrow' => ?_
    have hne : pk ≠ new := by
      rintro rfl
      rw [hnew] at hrow
      cases hrow
    rw [← Option.some.inj (hrow.symm.trans ((if_neg hne).symm.trans hrow'))]
    exact hbefore
  | stamps now tenants stamped reminder found candidates hfound hdue =>
    by_cases hpk : pk = stamped
    · subst hpk
      obtain rfl := Option.some.inj (hrow.symm.trans hfound)
      by_cases htime : reminder.scheduledAt = scheduledAt
      · exact .inr ⟨_, rfl, Prod.ext rfl htime⟩
      · refine .inl fun row' hrow' => ?_
        -- The row is not due yet, or the tick would have read it with its time.
        have hlater : now < scheduledAt := by
          by_contra hpast
          refine htime (((stampsDue_iff.mp hdue).2.2 ?_).symm.trans hscheduled)
          rw [Reminder.isDue, hopen, hscheduled, hbefore]
          simpa using hpast
        rw [rows_modify _ pk hrow, if_pos rfl] at hrow'
        rw [← Option.some.inj hrow', Reminder.notifiedBefore]
        exact decide_eq_true hlater
    · refine .inl fun row' hrow' => ?_
      rw [rows_modify _ stamped hrow, if_neg hpk] at hrow'
      rw [← Option.some.inj hrow']
      exact hbefore

/-- What a tick has before it stays before it, unless it is stamped. -/
theorem queued_turned (turned : Turned tenantOf desk worker after worker')
    (hrow : desk.rows pk = some row) (hmem : pk ∈ desk.pks)
    (hscheduled : row.scheduledAt = scheduledAt) (hdue : row.isDue worker.now = true)
    (queued : tenantOf pk ∈ worker.tenants ∨
      ∃ reminder, (pk, reminder) ∈ worker.candidates ∧ reminder.scheduledAt = scheduledAt) :
    (worker'.now = worker.now ∧ (tenantOf pk ∈ worker'.tenants ∨
      ∃ reminder, (pk, reminder) ∈ worker'.candidates ∧ reminder.scheduledAt = scheduledAt)) ∨
      ∃ alert, worker'.sent? = some alert ∧ alert.key = (pk, scheduledAt) := by
  have hleft : worker.tenants ≠ [] ∨ worker.candidates ≠ [] := by
    rcases queued with htenant | ⟨reminder, hcandidate, -⟩
    · exact .inl (List.ne_nil_of_mem htenant)
    · exact .inr (List.ne_nil_of_mem hcandidate)
  cases turned with
  | rests => exact .inl ⟨rfl, queued⟩
  | goes _ _ hidle | edits _ _ hidle | inserts _ _ _ hidle =>
    rw [Worker.tenants_of_isIdle hidle, Worker.candidates_of_isIdle hidle] at hleft
    exact absurd hleft (by simp)
  | begins => exact absurd hleft (by simp [Worker.tenants, Worker.candidates])
  | selects now tenant tenants =>
    have hqueued : tenantOf pk ∈ tenants ∨
        (pk, row) ∈ dueReminders tenantOf desk tenant now := by
      rcases queued with htenant | ⟨reminder, hcandidate, -⟩
      · rcases List.mem_cons.mp htenant with htenant | htenant
        · exact .inr (mem_dueReminders.mpr ⟨hmem, hrow, htenant, hdue⟩)
        · exact .inl htenant
      · cases hcandidate
    rw [tenants_settled, candidates_settled]
    refine .inl ⟨now_settled ?_, hqueued.imp id fun hcandidate => ⟨row, hcandidate, hscheduled⟩⟩
    exact hqueued.imp List.ne_nil_of_mem List.ne_nil_of_mem
  | stamps now tenants stamped reminder found candidates =>
    rcases queued with htenant | ⟨candidate, hcandidate, htime⟩
    · exact .inl ⟨rfl, .inl htenant⟩
    · rcases List.mem_cons.mp hcandidate with hhead | hrest
      · obtain ⟨rfl, rfl⟩ := Prod.mk.inj hhead
        exact .inr ⟨_, rfl, Prod.ext rfl htime⟩
      · exact .inl ⟨rfl, .inr ⟨candidate, hrest, htime⟩⟩
  | sends now tenants candidates =>
    rw [tenants_settled, candidates_settled]
    exact .inl ⟨now_settled hleft, queued⟩

theorem Alerted.turn {key : ℕ × ℕ} (alerted : Alerted world key) (hguarded : Guarded world event) :
    Alerted (world.turn (act tenantOf) event) key := by
  obtain ⟨name, action⟩ := event
  have turned : Turned tenantOf world.shared (world.locals name) _ _ := turned_turn hguarded
  rcases alerted with ⟨alert, hmem, hkey⟩ | ⟨worker, alert, hheld, hkey⟩
  · refine .inl ⟨alert, ?_, hkey⟩
    rcases alerts_turned turned with hsame | ⟨held, -, happend, -⟩
    · rw [hsame]
      exact hmem
    · rw [happend]
      exact List.mem_append_left _ hmem
  · by_cases hname : worker = name
    · rw [hname] at hheld
      rcases held_turned turned hheld with hheld | hmem
      · exact .inr ⟨name, alert, hheld, hkey⟩
      · exact .inl ⟨alert, hmem, hkey⟩
    · refine .inr ⟨worker, alert, ?_, hkey⟩
      rw [World.turn_locals_of_ne world action hname]
      exact hheld

theorem Owed.turn (owed : Owed tenantOf tick pk scheduledAt world)
    (stays : Stays pk scheduledAt world) (watched : Watched world) (hguarded : Guarded world event)
    :
    Alerted (world.turn (act tenantOf) event) (pk, scheduledAt) ∨
      Owed tenantOf tick pk scheduledAt (world.turn (act tenantOf) event) := by
  obtain ⟨name, action⟩ := event
  obtain ⟨row, hrow, hopen, hscheduled⟩ := stays
  have turned : Turned tenantOf world.shared (world.locals name) _ _ := turned_turn hguarded
  have hbefore := owed.armed row hrow
  rcases armed_turned turned hrow hopen hscheduled hbefore with armed | ⟨alert, hheld, hkey⟩
  · by_cases hname : tick = name
    · subst hname
      have hmem : pk ∈ world.shared.pks := (watched.listed.mem_iff pk).mpr (by rw [hrow]; rfl)
      have hdue : row.isDue (world.locals tick).now = true := by
        rw [Reminder.isDue, hopen, hscheduled, hbefore]
        simpa using owed.past
      rcases queued_turned turned hrow hmem hscheduled hdue owed.queued with
        ⟨hnow, queued⟩ | ⟨alert, hheld, hkey⟩
      · exact .inr ⟨armed, hnow ▸ owed.past, queued⟩
      · exact .inl (.inr ⟨tick, alert, hheld, hkey⟩)
    · have hlocal : (world.turn (act tenantOf) (name, action)).locals tick = world.locals tick :=
        World.turn_locals_of_ne world action hname
      refine .inr ⟨armed, ?_, ?_⟩
      · rw [hlocal]
        exact owed.past
      · rw [hlocal]
        exact owed.queued
  · exact .inl (.inr ⟨name, alert, hheld, hkey⟩)

theorem not_owed_of_done (hdone : world.locals tick = .done) :
    ¬ Owed tenantOf tick pk scheduledAt world := by
  intro owed
  rcases owed.queued with htenant | ⟨reminder, hcandidate, -⟩
  · rw [hdone] at htenant
    cases htenant
  · rw [hdone] at hcandidate
    cases hcandidate

theorem alerted_of_done
    (owed : Alerted world (pk, scheduledAt) ∨ Owed tenantOf tick pk scheduledAt world)
    (watched : Watched world) (hguarded : Every (World.turn (act tenantOf)) Guarded world events)
    (stays : Always (World.turn (act tenantOf)) (Stays pk scheduledAt) world events)
    (hdone : (run (World.turn (act tenantOf)) world events).locals tick = .done) :
    Alerted (run (World.turn (act tenantOf)) world events) (pk, scheduledAt) := by
  induction events generalizing world with
  | nil => exact owed.resolve_right (not_owed_of_done hdone)
  | cons event rest ih =>
    refine ih ?_ (watched.turn hguarded.1) hguarded.2 stays.2 hdone
    rcases owed with alerted | owed
    · exact .inl (alerted.turn hguarded.1)
    · exact owed.turn stays.start watched hguarded.1

end Owed

/-! ## Runs -/

/-- At most one alert is sent for each reminder and time, and each for a reminder that was open when
it was stamped. -/
structure SentOnce (world : World Desk Worker) : Prop where
  once : (world.shared.alerts.map Alert.key).Nodup
  wasOpen : ∀ alert ∈ world.shared.alerts, alert.wasOpen = true

/-- A reminder that is due when a tick begins, and stays open and scheduled at its time until the
tick is done, gets the alert then that it has not had before. -/
def NoneMissed (tenantOf : ℕ → ℕ) (start : World Desk Worker) (events : List (ℕ × Action)) : Prop :=
  ∀ before tick now tenants during after,
    events = before ++ (tick, .begin now tenants) :: during ++ after →
      (run (World.turn (act tenantOf)) start before).locals tick = .ready →
      (run (World.turn (act tenantOf)) start
        (before ++ (tick, .begin now tenants) :: during)).locals tick = .done →
      ∀ pk row, (run (World.turn (act tenantOf)) start before).shared.rows pk = some row →
        row.isDue now = true → tenantOf pk ∈ tenants →
          Always (World.turn (act tenantOf)) (Stays pk row.scheduledAt)
            (run (World.turn (act tenantOf)) start before)
            ((tick, .begin now tenants) :: during) →
          ¬ Alerted (run (World.turn (act tenantOf)) start before) (pk, row.scheduledAt) ∧
            Alerted (run (World.turn (act tenantOf)) start
              (before ++ (tick, .begin now tenants) :: during)) (pk, row.scheduledAt)

section Runs

variable {tenantOf : ℕ → ℕ} {world : World Desk Worker} {tick now pk : ℕ} {tenants : List ℕ}
  {row : Reminder}

theorem not_alerted_of_isDue (watched : Watched world) (hrow : world.shared.rows pk = some row)
    (hdue : row.isDue now = true) : ¬ Alerted world (pk, row.scheduledAt) := by
  rw [Reminder.isDue, Bool.and_eq_true] at hdue
  rintro (⟨alert, hmem, hkey⟩ | ⟨worker, alert, hheld, hkey⟩)
  · exact ne_key_of_marked hrow hdue.2 (watched.sent alert hmem).1 hkey
  · exact ne_key_of_marked hrow hdue.2 (watched.sending worker alert hheld).1 hkey

theorem owed_begin (hready : world.locals tick = .ready) (hrow : world.shared.rows pk = some row)
    (hdue : row.isDue now = true) (htenant : tenantOf pk ∈ tenants) :
    Owed tenantOf tick pk row.scheduledAt
      (world.turn (act tenantOf) (tick, .begin now tenants)) := by
  have hshared : (world.turn (act tenantOf) (tick, .begin now tenants)).shared = world.shared := by
    rw [World.turn_shared, hready, act]
  have hlocal : (world.turn (act tenantOf) (tick, .begin now tenants)).locals tick =
      settled now tenants [] := by
    rw [World.turn_locals_self, hready, act]
  rw [Reminder.isDue, Bool.and_eq_true, Bool.and_eq_true] at hdue
  constructor
  · intro row' hrow'
    rw [hshared, hrow] at hrow'
    rw [← Option.some.inj hrow']
    exact hdue.2
  · rw [hlocal, now_settled (.inl (List.ne_nil_of_mem htenant))]
    exact of_decide_eq_true hdue.1.1
  · rw [hlocal, tenants_settled]
    exact .inl htenant

theorem Watched.run (watched : Watched world)
    (hguarded : Every (World.turn (act tenantOf)) Guarded world events) :
    Watched (run (World.turn (act tenantOf)) world events) :=
  run_invariant Watched (fun _ _ watched hguarded => watched.turn hguarded) watched events hguarded

theorem Watched.noneMissed (watched : Watched world)
    (hguarded : Every (World.turn (act tenantOf)) Guarded world events) :
    NoneMissed tenantOf world events := by
  rintro before tick now tenants during after rfl hready hdone pk row hrow hdue htenant stays
  rw [run_append, run_cons] at hdone ⊢
  have hrest := hguarded.first.rest
  have hbefore := watched.run hguarded.first.first
  refine ⟨not_alerted_of_isDue hbefore hrow hdue, ?_⟩
  exact alerted_of_done (.inr (owed_begin hready hrow hdue htenant)) (hbefore.turn hrest.1)
    hrest.2 stays.2 hdone

end Runs

def quiet (rows : ℕ → Option Reminder) (pks : List ℕ) : World Desk Worker where
  shared := { rows, pks }
  locals _ := .ready

theorem watched_quiet {rows : ℕ → Option Reminder} {pks : List ℕ} (listed : Listed rows pks) :
    Watched (quiet rows pks) where
  listed := listed
  selected _ _ hmem := absurd hmem List.not_mem_nil
  sent _ hmem := absurd hmem List.not_mem_nil
  sending _ _ hheld := by cases hheld
  distinct _ _ _ _ _ hheld := by cases hheld
  nodup := List.nodup_nil

/--
As long as the stamps are guarded, every alert is sent once and for an open reminder, and none is
missed.
-/
theorem sentOnce_and_noneMissed (tenantOf : ℕ → ℕ) {rows : ℕ → Option Reminder} {pks : List ℕ}
    (listed : Listed rows pks) (events : List (ℕ × Action))
    (hguarded : Every (World.turn (act tenantOf)) Guarded (quiet rows pks) events) :
    Always (World.turn (act tenantOf)) SentOnce (quiet rows pks) events ∧
      NoneMissed tenantOf (quiet rows pks) events :=
  ⟨always_of_invariant Watched
      (fun _ watched => ⟨watched.nodup, fun alert hmem => (watched.sent alert hmem).2⟩)
      (fun _ _ watched hguarded => watched.turn hguarded) (watched_quiet listed) events hguarded,
    (watched_quiet listed).noneMissed hguarded⟩

/-- A table of one reminder. -/
def oneReminder : ℕ → Option Reminder := fun pk =>
  if pk = 0 then some { subject := "call back", scheduledAt := 10, createdBy := 1 } else none

theorem listed_oneReminder : Listed oneReminder [0] := by
  refine Listed.insert Listed.empty rfl (if_pos rfl) fun other hne => ?_
  exact if_neg hne

/-- Two ticks that do not overlap. -/
theorem sentOnce_and_noneMissed_inTurn :
    Always (World.turn (act fun _ => 0)) SentOnce (quiet oneReminder [0])
        [(0, .begin 20 [0]), (0, .select), (0, .stamp), (0, .send), (1, .begin 50 [0]),
          (1, .select)] ∧
      NoneMissed (fun _ => 0) (quiet oneReminder [0])
        [(0, .begin 20 [0]), (0, .select), (0, .stamp), (0, .send), (1, .begin 50 [0]),
          (1, .select)] :=
  sentOnce_and_noneMissed _ listed_oneReminder _ (by decide +kernel)

/-- Two ticks select the reminder, and then both stamp it. -/
theorem not_sentOnce_and_noneMissed_overlapping :
    ¬ (Always (World.turn (act fun _ => 0)) SentOnce (quiet oneReminder [0])
        [(0, .begin 20 [0]), (1, .begin 50 [0]), (0, .select), (1, .select), (0, .stamp),
          (0, .send), (1, .stamp), (1, .send)] ∧
      NoneMissed (fun _ => 0) (quiet oneReminder [0])
        [(0, .begin 20 [0]), (1, .begin 50 [0]), (0, .select), (1, .select), (0, .stamp),
          (0, .send), (1, .stamp), (1, .send)]) := by
  rintro ⟨always, -⟩
  have once := always.finish.once
  revert once
  decide +kernel

end Kanzan.Crm

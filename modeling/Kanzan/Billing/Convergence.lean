import Kanzan.Billing.Webhooks
import Kanzan.Support.Runs

/-!
# Where the events of two subscriptions lead

A tenant has had two subscriptions at Stripe, one after the other.  Their events come in any order
and any number of times, and the row of the tenant follows what is handled last.
-/

namespace Kanzan.Billing

open Support

/-! ## What one event does to the rows -/

/-- One tenant's row has been written, and no other. -/
structure Writes (db db' : Db) (tenant : ℕ) (row : Subscription) : Prop where
  plans : db'.plans = db.plans
  tenants : db'.tenants = db.tenants
  mem : row ∈ db'.subscriptions
  owner : row.tenant = tenant
  others : ∀ other ∈ db'.subscriptions,
    other = row ∨ other ∈ db.subscriptions ∧ other.tenant ≠ tenant

variable {stripeSubId : String}

section Rows

variable {db db' : Db} {tenant : ℕ} {row row' : Subscription} {stripeSub : StripeSubscription}
  {plan : Plan}

theorem commit_eq_ok {rows : List Subscription} (distinct : rows.Pairwise Subscription.Distinct) :
    db.commit rows = .ok { db with subscriptions := rows, distinct } :=
  dif_pos distinct

theorem Writes.subscriptionOf (writes : Writes db db' tenant row) :
    db'.subscriptionOf tenant = some row := by
  cases hfound : db'.subscriptionOf tenant with
  | none =>
    have hnone := List.find?_eq_none.mp hfound row writes.mem
    rw [writes.owner, beq_self_eq_true] at hnone
    exact absurd rfl hnone
  | some found =>
    have htenant := List.find?_some hfound
    rw [beq_iff_eq] at htenant
    rcases writes.others found (List.mem_of_find?_eq_some hfound) with rfl | ⟨-, hother⟩
    · rfl
    · exact absurd htenant hother

theorem commit_replace (row' : Subscription) {before after : List Subscription}
    (hrows : db.subscriptions = before ++ row :: after) (htenant : row'.tenant = row.tenant)
    (hid : ∀ other ∈ db.subscriptions, other.tenant ≠ row.tenant →
      row'.stripeSubscriptionId = none ∨ other.stripeSubscriptionId ≠ row'.stripeSubscriptionId) :
    ∃ db', db.commit (before ++ row' :: after) = .ok db' ∧ Writes db db' row.tenant row' := by
  have hdistinct := db.distinct
  rw [hrows] at hdistinct
  have hsplit := List.pairwise_append.mp hdistinct
  have hbefore : ∀ other ∈ before, other.tenant ≠ row.tenant := fun other hother =>
    (hsplit.2.2 other hother row List.mem_cons_self).1
  have hafter : ∀ other ∈ after, other.tenant ≠ row.tenant := fun other hother =>
    ((List.pairwise_cons.mp hsplit.2.1).1 other hother).1.symm
  have hmem : ∀ other, other ∈ before ∨ other ∈ after → other ∈ db.subscriptions := by
    intro other hother
    rw [hrows, List.mem_append, List.mem_cons]
    exact hother.imp_right .inr
  have hnew : (before ++ row' :: after).Pairwise Subscription.Distinct := by
    refine pairwise_replace hdistinct ?_ ?_
    · intro other hother
      have hne := hbefore other hother
      refine ⟨htenant ▸ hne, ?_⟩
      rcases hid other (hmem other (.inl hother)) hne with hnone | hdiffers
      · rw [hnone]
        exact Decidable.em _
      · exact .inr hdiffers
    · intro other hother
      have hne := hafter other hother
      exact ⟨htenant ▸ hne.symm, (hid other (hmem other (.inr hother)) hne).imp_right Ne.symm⟩
  refine ⟨_, commit_eq_ok hnew, rfl, rfl, ?_, htenant, ?_⟩
  · exact List.mem_append_right _ List.mem_cons_self
  · intro other hother
    rcases List.mem_append.mp hother with hother | hother
    · exact .inr ⟨hmem other (.inl hother), hbefore other hother⟩
    · rcases List.mem_cons.mp hother with rfl | hother
      · exact .inl rfl
      · exact .inr ⟨hmem other (.inr hother), hafter other hother⟩

theorem isUnder_iff :
    row.isUnder stripeSubId = true ↔ row.stripeSubscriptionId = some stripeSubId :=
  beq_iff_eq

theorem refresh_tenant (plan : Plan) (row : Subscription)
    (htenant : stripeSub.tenantId = some tenant) : (stripeSub.refresh plan row).tenant = tenant := by
  rw [StripeSubscription.refresh, htenant]
  rfl

theorem repoint_tenant (plan : Plan) (row : Subscription)
    (htenant : stripeSub.tenantId = some tenant) : (stripeSub.repoint plan row).tenant = tenant :=
  refresh_tenant plan row htenant

theorem refresh_eq_repoint (hunder : row.isUnder stripeSub.id = true) :
    stripeSub.refresh plan row = stripeSub.repoint plan row := by
  rw [isUnder_iff] at hunder
  rw [StripeSubscription.repoint, ← hunder]
  rfl

theorem sync_writes (htenant : stripeSub.tenantId = some tenant) (hknown : tenant ∈ db.tenants)
    (hplan : planFor db.plans stripeSub = some plan)
    (howned : ∀ row ∈ db.subscriptions, row.isUnder stripeSub.id = true → row.tenant = tenant) :
    ∃ db' before, syncSubscriptionFromStripe stripeSub db = .ok db' ∧
      Writes db db' tenant (stripeSub.repoint plan before) := by
  have hknown' : (stripeSub.tenantId.any fun tenant => !db.tenants.contains tenant) = false := by
    simpa [htenant] using hknown
  simp only [syncSubscriptionFromStripe, hplan, hknown', Bool.false_eq_true, if_false]
  cases hexisting : updateFirst (Subscription.isUnder stripeSub.id) (stripeSub.refresh plan)
      db.subscriptions with
  | some rows =>
    obtain ⟨before, row, after, hrows, rfl, hunder⟩ := exists_of_updateFirst hexisting
    have hmem : row ∈ db.subscriptions := by
      rw [hrows]
      exact List.mem_append_right _ List.mem_cons_self
    have howner := howned row hmem hunder
    have hid : ∀ other ∈ db.subscriptions, other.tenant ≠ row.tenant →
        (stripeSub.refresh plan row).stripeSubscriptionId = none ∨
          other.stripeSubscriptionId ≠ (stripeSub.refresh plan row).stripeSubscriptionId := by
      intro other hother hne
      refine .inr fun hsame => hne ?_
      have hunder' := isUnder_iff.mpr (hsame.trans (isUnder_iff.mp hunder))
      exact (howned other hother hunder').trans howner.symm
    obtain ⟨db', hcommit, writes⟩ := commit_replace (stripeSub.refresh plan row) hrows
      ((refresh_tenant plan row htenant).trans howner.symm) hid
    rw [howner, refresh_eq_repoint hunder] at writes
    exact ⟨db', row, hcommit, writes⟩
  | none =>
    have hunnamed : ∀ other ∈ db.subscriptions,
        other.stripeSubscriptionId ≠ some stripeSub.id := by
      intro other hother hsame
      have hnot := updateFirst_eq_none.mp hexisting other hother
      rw [isUnder_iff.mpr hsame] at hnot
      cases hnot
    simp only [htenant]
    cases hown : updateFirst (fun row => row.tenant == tenant) (stripeSub.repoint plan)
        db.subscriptions with
    | some rows =>
      obtain ⟨before, row, after, hrows, rfl, howner⟩ := exists_of_updateFirst hown
      rw [beq_iff_eq] at howner
      obtain ⟨db', hcommit, writes⟩ := commit_replace (stripeSub.repoint plan row) hrows
        ((repoint_tenant plan row htenant).trans howner.symm)
        fun other hother _ => .inr (hunnamed other hother)
      rw [howner] at writes
      exact ⟨db', row, hcommit, writes⟩
    | none =>
      have hnone : ∀ other ∈ db.subscriptions, other.tenant ≠ tenant := by
        intro other hother hsame
        have hnot := updateFirst_eq_none.mp hown other hother
        rw [hsame, beq_self_eq_true] at hnot
        cases hnot
      refine ⟨_, _, commit_eq_ok ?_, rfl, rfl, List.mem_append_right _ List.mem_cons_self,
        repoint_tenant plan _ htenant, ?_⟩
      · refine List.pairwise_append.mpr ⟨db.distinct, List.pairwise_singleton _ _, ?_⟩
        intro other hother row hrow
        obtain rfl := List.mem_singleton.mp hrow
        refine ⟨?_, .inr (hunnamed other hother)⟩
        rw [repoint_tenant plan _ htenant]
        exact hnone other hother
      · intro other hother
        rcases List.mem_append.mp hother with hother | hother
        · exact .inr ⟨hother, hnone other hother⟩
        · exact .inl (List.mem_singleton.mp hother)

theorem deleted_writes
    (howned : ∀ row ∈ db.subscriptions, row.isUnder stripeSub.id = true → row.tenant = tenant) :
    (∃ db' row, handleSubscriptionDeleted stripeSub db = .ok db' ∧ row ∈ db.subscriptions ∧
        row.isUnder stripeSub.id = true ∧
        Writes db db' tenant (row.cancel stripeSub.canceledAt)) ∨
      handleSubscriptionDeleted stripeSub db = .ok db ∧
        ∀ row ∈ db.subscriptions, row.isUnder stripeSub.id = false := by
  rw [handleSubscriptionDeleted]
  cases hexisting : updateFirst (Subscription.isUnder stripeSub.id)
      (Subscription.cancel stripeSub.canceledAt) db.subscriptions with
  | none => exact .inr ⟨rfl, updateFirst_eq_none.mp hexisting⟩
  | some rows =>
    obtain ⟨before, row, after, hrows, rfl, hunder⟩ := exists_of_updateFirst hexisting
    have hmem : row ∈ db.subscriptions := by
      rw [hrows]
      exact List.mem_append_right _ List.mem_cons_self
    have howner := howned row hmem hunder
    obtain ⟨db', hcommit, writes⟩ := commit_replace (row.cancel stripeSub.canceledAt) hrows rfl
      fun other hother hne => .inr fun hsame => hne ((howned other hother
        (isUnder_iff.mpr (hsame.trans (isUnder_iff.mp hunder)))).trans howner.symm)
    rw [howner] at writes
    exact .inl ⟨db', row, hcommit, hmem, hunder, writes⟩

end Rows

/-! ## Deliveries -/

inductive Delivery where
  | deliver (event : StripeEvent)
  /-- The marker of an event leaves the cache. -/
  | expire (eventId : String)
deriving DecidableEq

def receive (receiver : Receiver) : Delivery → Receiver
  | .deliver event => (stripeWebhook event receiver).2
  | .expire eventId =>
    { receiver with processed := receiver.processed.filter (· != eventId) }

def handledIn : List String → List Delivery → List StripeEvent
  | _, [] => []
  | processed, .deliver event :: rest =>
    if event.id ∈ processed then handledIn processed rest
    else event :: handledIn (event.id :: processed) rest
  | processed, .expire eventId :: rest => handledIn (processed.filter (· != eventId)) rest

def StripeEvent.status (event : StripeEvent) : Status :=
  if event.type = .deleted then .canceled else localStatus event.object.status

/--
Two subscriptions of a tenant with all their events, each in the order of time, and a delivery of
each of them at least once.
-/
structure Scenario where
  start : Db
  tenant : ℕ
  oldId : String
  newId : String
  old : List StripeEvent
  earlier : List StripeEvent
  last : StripeEvent
  deliveries : List Delivery
  known : tenant ∈ start.tenants
  ids_differ : oldId ≠ newId
  of_old : ∀ event ∈ old, event.object.id = oldId
  of_new : ∀ event ∈ earlier ++ [last], event.object.id = newId
  cancels : old.getLast?.map StripeEvent.status = some .canceled
  types : ∀ event ∈ old ++ (earlier ++ [last]), event.type ≠ .other
  named : ∀ event ∈ old ++ (earlier ++ [last]), event.id ≠ ""
  nodup : ((old ++ (earlier ++ [last])).map StripeEvent.id).Nodup
  carries : ∀ event ∈ old ++ (earlier ++ [last]), event.object.tenantId = some tenant
  resolvable : ∀ event ∈ old ++ (earlier ++ [last]), (planFor start.plans event.object).isSome
  unnamed : ∀ row ∈ start.subscriptions, row.isUnder oldId = false ∧ row.isUnder newId = false
  only : ∀ event, .deliver event ∈ deliveries → event ∈ old ++ (earlier ++ [last])
  all : ∀ event ∈ old ++ (earlier ++ [last]), .deliver event ∈ deliveries

namespace Scenario

variable (scenario : Scenario)

def events : List StripeEvent := scenario.old ++ (scenario.earlier ++ [scenario.last])

def finish : Receiver := run receive { db := scenario.start } scenario.deliveries

def handled : List StripeEvent := handledIn [] scenario.deliveries

/-- The row names the newer subscription as its last event has it. -/
def Converged : Prop :=
  ∃ row, scenario.finish.db.subscriptionOf scenario.tenant = some row ∧
    row.stripeSubscriptionId = some scenario.newId ∧ row.status = scenario.last.status ∧
    some row.plan = planFor scenario.start.plans scenario.last.object ∧
    row.currentPeriodStart = scenario.last.object.currentPeriodStart ∧
    row.currentPeriodEnd = scenario.last.object.currentPeriodEnd

end Scenario

def lastSync (handled : List StripeEvent) : Option StripeEvent :=
  handled.reverse.find? fun event => event.type != .deleted

/-- Whether a deletion of a subscription is handled after every creation and update. -/
def deletedSince (stripeSubId : String) (handled : List StripeEvent) : Bool :=
  (handled.reverse.takeWhile fun event => event.type == .deleted).any fun event =>
    event.object.id == stripeSubId

/--
The creation or update that is handled last is one of the newer subscription, with the plan and
the period of its last event, and with its status, or else a deletion comes after it.
-/
def Scenario.NewerLast (scenario : Scenario) : Prop :=
  ∃ event, lastSync scenario.handled = some event ∧ event.object.id = scenario.newId ∧
    (if deletedSince scenario.newId scenario.handled then .canceled
      else localStatus event.object.status) = scenario.last.status ∧
    planFor scenario.start.plans event.object = planFor scenario.start.plans scenario.last.object ∧
    event.object.currentPeriodStart = scenario.last.object.currentPeriodStart ∧
    event.object.currentPeriodEnd = scenario.last.object.currentPeriodEnd

section Runs

variable {scenario : Scenario} {receiver : Receiver} {handled : List StripeEvent}
  {event : StripeEvent}

theorem lastSync_concat (hsync : event.type ≠ .deleted) :
    lastSync (handled ++ [event]) = some event := by
  simp [lastSync, hsync]

theorem lastSync_concat_deleted (hdeleted : event.type = .deleted) :
    lastSync (handled ++ [event]) = lastSync handled := by
  simp [lastSync, hdeleted]

theorem deletedSince_concat (hsync : event.type ≠ .deleted) :
    deletedSince stripeSubId (handled ++ [event]) = false := by
  simp [deletedSince, hsync]

theorem deletedSince_concat_deleted (hdeleted : event.type = .deleted) :
    deletedSince stripeSubId (handled ++ [event]) =
      (event.object.id == stripeSubId || deletedSince stripeSubId handled) := by
  simp [deletedSince, hdeleted]

/-- What a row shows of the creation or update that was handled last. -/
structure Shows (plans : List Plan) (event : StripeEvent) (handled : List StripeEvent)
    (row : Subscription) : Prop where
  id : row.stripeSubscriptionId = some event.object.id
  status : row.status = if deletedSince event.object.id handled then .canceled
    else localStatus event.object.status
  plan : some row.plan = planFor plans event.object
  periodStart : row.currentPeriodStart = event.object.currentPeriodStart
  periodEnd : row.currentPeriodEnd = event.object.currentPeriodEnd

/-- The tables follow what has been handled. -/
structure Follows (scenario : Scenario) (db : Db) (handled : List StripeEvent) : Prop where
  plans : db.plans = scenario.start.plans
  known : scenario.tenant ∈ db.tenants
  owned : ∀ row ∈ db.subscriptions,
    row.isUnder scenario.oldId = true ∨ row.isUnder scenario.newId = true →
      row.tenant = scenario.tenant
  unnamed : lastSync handled = none → ∀ row ∈ db.subscriptions,
    row.isUnder scenario.oldId = false ∧ row.isUnder scenario.newId = false
  row : ∀ event, lastSync handled = some event → ∃ row,
    db.subscriptionOf scenario.tenant = some row ∧ Shows scenario.start.plans event handled row

theorem follows_start : Follows scenario scenario.start [] where
  plans := rfl
  known := scenario.known
  owned row hmem hunder := by
    obtain ⟨hold, hnew⟩ := scenario.unnamed row hmem
    rcases hunder with hunder | hunder
    · cases hold.symm.trans hunder
    · cases hnew.symm.trans hunder
  unnamed _ := scenario.unnamed
  row := nofun

theorem Scenario.id_or (hmem : event ∈ scenario.events) :
    event.object.id = scenario.oldId ∨ event.object.id = scenario.newId := by
  rcases List.mem_append.mp hmem with hmem | hmem
  · exact .inl (scenario.of_old event hmem)
  · exact .inr (scenario.of_new event hmem)

theorem subscriptionOf_eq_some {db : Db} {row : Subscription} (hmem : row ∈ db.subscriptions) :
    db.subscriptionOf row.tenant = some row := by
  cases hfound : db.subscriptionOf row.tenant with
  | none =>
    have hnone := List.find?_eq_none.mp hfound row hmem
    rw [beq_self_eq_true] at hnone
    exact absurd rfl hnone
  | some found =>
    have htenant := List.find?_some hfound
    rw [beq_iff_eq] at htenant
    have hnodup : (db.subscriptions.map Subscription.tenant).Nodup :=
      List.pairwise_map.mpr (db.distinct.imp And.left)
    exact congrArg some (List.inj_on_of_nodup_map hnodup
      (List.mem_of_find?_eq_some hfound) hmem htenant)

theorem Follows.handle {db : Db} (follows : Follows scenario db handled)
    (hevent : event ∈ scenario.events) :
    ∃ db', handle event db = .ok db' ∧ Follows scenario db' (handled ++ [event]) := by
  have howned : ∀ row ∈ db.subscriptions, row.isUnder event.object.id = true →
      row.tenant = scenario.tenant := by
    intro row hmem hunder
    rcases scenario.id_or hevent with hid | hid
    · exact follows.owned row hmem (.inl (hid ▸ hunder))
    · exact follows.owned row hmem (.inr (hid ▸ hunder))
  have hkeeps : ∀ {db' : Db} {row : Subscription}, Writes db db' scenario.tenant row →
      ∀ other ∈ db'.subscriptions,
        other.isUnder scenario.oldId = true ∨ other.isUnder scenario.newId = true →
          other.tenant = scenario.tenant := by
    intro db' row writes other hmem hunder
    rcases writes.others other hmem with rfl | ⟨hbefore, -⟩
    · exact writes.owner
    · exact follows.owned other hbefore hunder
  by_cases hdeleted : event.type = .deleted
  · have hhandle : Billing.handle event db = handleSubscriptionDeleted event.object db := by
      rw [Billing.handle, hdeleted]
    rw [hhandle]
    rcases deleted_writes howned with ⟨db', row, hok, hmem, hunder, writes⟩ | ⟨hok, hnone⟩
    · have hrow : db.subscriptionOf scenario.tenant = some row := by
        rw [← howned row hmem hunder]
        exact subscriptionOf_eq_some hmem
      refine ⟨db', hok, ?_⟩
      exact
        { plans := writes.plans.trans follows.plans
          known := writes.tenants ▸ follows.known
          owned := hkeeps writes
          unnamed := by
            intro hlast
            rw [lastSync_concat_deleted hdeleted] at hlast
            obtain ⟨hold, hnew⟩ := follows.unnamed hlast row hmem
            rcases scenario.id_or hevent with hid | hid
            · cases (hid ▸ hunder).symm.trans hold
            · cases (hid ▸ hunder).symm.trans hnew
          row := by
            intro sync hlast
            rw [lastSync_concat_deleted hdeleted] at hlast
            obtain ⟨found, hfound, shows⟩ := follows.row sync hlast
            obtain rfl := Option.some.inj (hrow.symm.trans hfound)
            have hsame : event.object.id = sync.object.id :=
              Option.some.inj ((isUnder_iff.mp hunder).symm.trans shows.id)
            refine ⟨_, writes.subscriptionOf, shows.id, ?_, shows.plan, shows.periodStart,
              shows.periodEnd⟩
            rw [deletedSince_concat_deleted hdeleted, hsame, beq_self_eq_true, Bool.true_or,
              if_pos rfl]
            rfl }
    · refine ⟨db, hok, ?_⟩
      exact
        { plans := follows.plans
          known := follows.known
          owned := follows.owned
          unnamed := by
            rw [lastSync_concat_deleted hdeleted]
            exact follows.unnamed
          row := by
            intro sync hlast
            rw [lastSync_concat_deleted hdeleted] at hlast
            obtain ⟨found, hfound, shows⟩ := follows.row sync hlast
            refine ⟨found, hfound, shows.id, ?_, shows.plan, shows.periodStart, shows.periodEnd⟩
            have hdiffer : (event.object.id == sync.object.id) = false := by
              rw [beq_eq_false_iff_ne]
              intro hsame
              have hnot := hnone found (List.mem_of_find?_eq_some hfound)
              rw [isUnder_iff.mpr (hsame ▸ shows.id)] at hnot
              cases hnot
            rw [deletedSince_concat_deleted hdeleted, hdiffer, Bool.false_or]
            exact shows.status }
  · have hhandle : Billing.handle event db = syncSubscriptionFromStripe event.object db := by
      cases htype : event.type with
      | deleted => exact absurd htype hdeleted
      | other => exact absurd htype (scenario.types event hevent)
      | _ => simp [Billing.handle, htype]
    obtain ⟨plan, hplan⟩ := Option.isSome_iff_exists.mp (scenario.resolvable event hevent)
    rw [← follows.plans] at hplan
    obtain ⟨db', before, hok, writes⟩ :=
      sync_writes (scenario.carries event hevent) follows.known hplan howned
    rw [hhandle]
    refine ⟨db', hok, ?_⟩
    exact
      { plans := writes.plans.trans follows.plans
        known := writes.tenants ▸ follows.known
        owned := hkeeps writes
        unnamed := by
          intro hlast
          rw [lastSync_concat hdeleted] at hlast
          cases hlast
        row := by
          intro sync hlast
          rw [lastSync_concat hdeleted] at hlast
          obtain rfl := Option.some.inj hlast
          refine ⟨_, writes.subscriptionOf, rfl, ?_, ?_, rfl, rfl⟩
          · rw [deletedSince_concat hdeleted]
            rfl
          · rw [← follows.plans, hplan]
            rfl }

theorem Follows.run (receiver : Receiver) {deliveries : List Delivery}
    (follows : Follows scenario receiver.db handled)
    (honly : ∀ event, .deliver event ∈ deliveries → event ∈ scenario.events) :
    Follows scenario (run receive receiver deliveries).db
      (handled ++ handledIn receiver.processed deliveries) := by
  induction deliveries generalizing receiver handled with
  | nil => simpa [handledIn] using follows
  | cons delivery rest ih =>
    have hrest : ∀ event, .deliver event ∈ rest → event ∈ scenario.events := fun event hmem =>
      honly event (List.mem_cons_of_mem delivery hmem)
    cases delivery with
    | expire eventId => exact ih _ follows hrest
    | deliver event =>
      have hevent := honly event List.mem_cons_self
      have hnamed : event.id ≠ "" := scenario.named event hevent
      by_cases hmarked : event.id ∈ receiver.processed
      · have hskip : receive receiver (.deliver event) = receiver := by
          simp [receive, stripeWebhook, hnamed, hmarked]
        rw [run_cons, hskip, handledIn, if_pos hmarked]
        exact ih receiver follows hrest
      · obtain ⟨db', hok, follows'⟩ := follows.handle hevent
        have htaken : receive receiver (.deliver event) =
            { db := db', processed := event.id :: receiver.processed } := by
          simp [receive, stripeWebhook, hnamed, hmarked, scenario.types event hevent, hok]
        rw [run_cons, htaken, handledIn, if_neg hmarked]
        have hafter := ih { db := db', processed := event.id :: receiver.processed } follows' hrest
        simpa using hafter

end Runs

/--
Once all events have been handled, the row names the newer subscription as its last event has it
exactly if what is handled last says so.
-/
theorem converged_iff (scenario : Scenario) : scenario.Converged ↔ scenario.NewerLast := by
  have follows : Follows scenario scenario.finish.db scenario.handled :=
    follows_start.run { db := scenario.start } scenario.only
  constructor
  · rintro ⟨row, hrow, hid, hstatus, hplan, hstart, hend⟩
    cases hlast : lastSync scenario.handled with
    | none =>
      have hunnamed := (follows.unnamed hlast row (List.mem_of_find?_eq_some hrow)).2
      cases (isUnder_iff.mpr hid).symm.trans hunnamed
    | some event =>
      obtain ⟨found, hfound, shows⟩ := follows.row event hlast
      obtain rfl := Option.some.inj (hrow.symm.trans hfound)
      have hevent := Option.some.inj (shows.id.symm.trans hid)
      refine ⟨event, hlast, hevent, ?_, shows.plan.symm.trans hplan, shows.periodStart.symm.trans hstart,
        shows.periodEnd.symm.trans hend⟩
      rw [← hevent, ← shows.status]
      exact hstatus
  · rintro ⟨event, hlast, hevent, hstatus, hplan, hstart, hend⟩
    obtain ⟨row, hrow, shows⟩ := follows.row event hlast
    refine ⟨row, hrow, hevent ▸ shows.id, ?_, shows.plan.trans hplan, shows.periodStart.trans hstart,
      shows.periodEnd.trans hend⟩
    rw [shows.status, hevent]
    exact hstatus

/-- It is enough that the newer subscription is still active and its last event is handled last. -/
theorem converged_of_getLast (scenario : Scenario) (hsync : scenario.last.type ≠ .deleted)
    (hlast : scenario.handled.getLast? = some scenario.last) : scenario.Converged := by
  have follows : Follows scenario scenario.finish.db scenario.handled :=
    follows_start.run { db := scenario.start } scenario.only
  obtain ⟨before, hhandled⟩ := List.getLast?_eq_some_iff.mp hlast
  rw [hhandled] at follows
  obtain ⟨row, hrow, shows⟩ := follows.row scenario.last (lastSync_concat hsync)
  have hid := scenario.of_new scenario.last (List.mem_append_right _ List.mem_cons_self)
  refine ⟨row, hrow, hid ▸ shows.id, ?_, shows.plan, shows.periodStart, shows.periodEnd⟩
  rw [shows.status, deletedSince_concat hsync, StripeEvent.status, if_neg hsync]
  rfl

/-- A plan with a price, and a tenant without a subscription. -/
def onePlan : Db where
  plans := [{ tier := .pro, name := "Pro", stripeProductId := "prod", stripePriceMonthly := "price" }]
  tenants := [1]
  subscriptions := []
  distinct := .nil

/-- An event about a subscription of the tenant. -/
def tells (id : String) (type : EventType) (stripeSubId status : String) : StripeEvent where
  id
  type
  object :=
    { id := stripeSubId, customer := "cus", prices := [{ id := "price" }], status, tenantId := some 1 }

/-- The first event of the new subscription overtakes those of the old one. -/
def overtaking : Scenario where
  start := onePlan
  tenant := 1
  oldId := "sub_old"
  newId := "sub_new"
  old := [tells "evt_1" .created "sub_old" "active", tells "evt_2" .deleted "sub_old" "canceled"]
  earlier := []
  last := tells "evt_3" .created "sub_new" "active"
  deliveries :=
    [.deliver (tells "evt_3" .created "sub_new" "active"),
      .deliver (tells "evt_1" .created "sub_old" "active"),
      .deliver (tells "evt_2" .deleted "sub_old" "canceled")]
  known := by decide
  ids_differ := by decide
  of_old := by decide
  of_new := by decide
  cancels := by decide
  types := by decide
  named := by decide
  nodup := by decide
  carries := by decide
  resolvable := by decide
  unnamed := by decide
  only := by
    intro event hmem
    simp at hmem ⊢
    tauto
  all := by decide

/-- The same events in the order of time. -/
def inOrder : Scenario :=
  { overtaking with
    deliveries := (overtaking.old ++ [overtaking.last]).map .deliver
    only _ hmem := by simpa [overtaking] using hmem
    all := by decide }

theorem converged_of_getLast_inOrder : inOrder.Converged :=
  converged_of_getLast inOrder (by decide) (by decide)

/-- The tenant is left with its old subscription, canceled. -/
theorem not_converged_overtaking : ¬ overtaking.Converged := by
  rintro ⟨row, hrow, hid, -⟩
  have hfinish : overtaking.finish.db.subscriptionOf 1 = some
      { tenant := 1, plan := onePlan.plans.head (by decide), stripeSubscriptionId := some "sub_old"
        stripeCustomerId := "cus", status := .canceled } := by
    decide
  obtain rfl := Option.some.inj (hrow.symm.trans hfinish)
  exact absurd hid (by decide)

end Kanzan.Billing

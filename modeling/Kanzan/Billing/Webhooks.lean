import Kanzan.Billing.Rows
import Kanzan.Support.Lists

/-!
# Stripe's webhook

`stripe_webhook` takes the events of Stripe, in the order in which they happen to come, and writes
what each of them says into the one row of its tenant.
-/

namespace Kanzan.Billing

open Support

/-- The first price of a subscription at Stripe, with what it leaves out as the empty text. -/
structure Price where
  id : String := ""
  product : String := ""
  interval : Option String := none
deriving DecidableEq

/-- A subscription at Stripe. -/
structure StripeSubscription where
  id : String
  customer : String
  prices : List Price
  status : String
  currentPeriodStart : Option ℕ := none
  currentPeriodEnd : Option ℕ := none
  cancelAtPeriodEnd : Bool := false
  canceledAt : Option ℕ := none
  trialEnd : Option ℕ := none
  /-- `metadata.tenant_id`. -/
  tenantId : Option ℕ := none
deriving DecidableEq

def StripeSubscription.interval (stripeSub : StripeSubscription) : BillingCycle :=
  if (stripeSub.prices.head?.bind Price.interval) = some "year" then .yearly else .monthly

/-- `status_map`, with its default. -/
def localStatus (status : String) : Status :=
  if status = "trialing" then .trialing
  else if status = "active" then .active
  else if status = "past_due" then .pastDue
  else if status = "canceled" then .canceled
  else if status = "incomplete" then .incomplete
  else if status = "unpaid" then .unpaid
  else if status = "incomplete_expired" then .canceled
  else if status = "paused" then .canceled
  else .incomplete

def planFor (plans : List Plan) (stripeSub : StripeSubscription) : Option Plan :=
  let price := stripeSub.prices.head?.getD {}
  let byPrice :=
    if price.id = "" then none
    else (plans.find? fun plan => plan.stripePriceMonthly == price.id).or
      (plans.find? fun plan => plan.stripePriceYearly == price.id)
  byPrice.or
    (if price.product = "" then none
      else plans.find? fun plan => plan.stripeProductId == price.product)

/-- The `defaults`, written over a row. -/
def StripeSubscription.refresh (stripeSub : StripeSubscription) (plan : Plan) (row : Subscription) :
    Subscription :=
  { row with
    plan
    stripeCustomerId := stripeSub.customer
    status := localStatus stripeSub.status
    billingCycle := stripeSub.interval
    currentPeriodStart := stripeSub.currentPeriodStart
    currentPeriodEnd := stripeSub.currentPeriodEnd
    cancelAtPeriodEnd := stripeSub.cancelAtPeriodEnd
    canceledAt := stripeSub.canceledAt
    trialEnd := stripeSub.trialEnd
    tenant := stripeSub.tenantId.getD row.tenant }

def StripeSubscription.repoint (stripeSub : StripeSubscription) (plan : Plan) (row : Subscription) :
    Subscription :=
  { stripeSub.refresh plan row with stripeSubscriptionId := some stripeSub.id }

def Subscription.isUnder (stripeSubId : String) (row : Subscription) : Bool :=
  row.stripeSubscriptionId == some stripeSubId

/-- `_sync_subscription_from_stripe`. -/
def syncSubscriptionFromStripe (stripeSub : StripeSubscription) (db : Db) : Except String Db :=
  match planFor db.plans stripeSub with
  | none => .ok db
  | some plan =>
    if stripeSub.tenantId.any fun tenant => !db.tenants.contains tenant then .ok db
    else
      match updateFirst (Subscription.isUnder stripeSub.id) (stripeSub.refresh plan)
          db.subscriptions with
      | some rows => db.commit rows
      | none =>
        match stripeSub.tenantId with
        | none => .ok db
        | some tenant =>
          -- a tenant has one row: it is repointed at the new id
          match updateFirst (fun row => row.tenant == tenant) (stripeSub.repoint plan)
              db.subscriptions with
          | some rows => db.commit rows
          | none =>
            db.commit (db.subscriptions ++ [stripeSub.repoint plan
              { tenant, plan, stripeCustomerId := stripeSub.customer }])

def Subscription.cancel (canceledAt : Option ℕ) (row : Subscription) : Subscription :=
  { row with status := .canceled, canceledAt }

/-- `_handle_subscription_deleted`. -/
def handleSubscriptionDeleted (stripeSub : StripeSubscription) (db : Db) : Except String Db :=
  match updateFirst (Subscription.isUnder stripeSub.id) (Subscription.cancel stripeSub.canceledAt)
      db.subscriptions with
  | some rows => db.commit rows
  | none => .ok db

inductive EventType where
  | created
  | updated
  | deleted
  /-- A type without a handler. -/
  | other
deriving DecidableEq

structure StripeEvent where
  id : String
  type : EventType
  object : StripeSubscription
deriving DecidableEq

/-- `EVENT_HANDLERS`. -/
def handle (event : StripeEvent) (db : Db) : Except String Db :=
  match event.type with
  | .created | .updated => syncSubscriptionFromStripe event.object db
  | .deleted => handleSubscriptionDeleted event.object db
  | .other => .ok db

/-- The tables, and the events whose markers are in the cache. -/
structure Receiver where
  db : Db
  processed : List String := []

inductive Response where
  | ok
  | serverError
deriving DecidableEq

/-- `stripe_webhook`, once the signature of the event has been verified. -/
def stripeWebhook (event : StripeEvent) (receiver : Receiver) : Response × Receiver :=
  if event.id ≠ "" ∧ event.id ∈ receiver.processed then (.ok, receiver)
  else if event.type = .other then (.ok, receiver)
  else
    match handle event receiver.db with
    | .error _ => (.serverError, receiver)
    | .ok db =>
      (.ok,
        { db
          processed :=
            if event.id = "" then receiver.processed else event.id :: receiver.processed })

end Kanzan.Billing

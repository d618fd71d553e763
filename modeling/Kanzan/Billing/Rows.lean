import Mathlib.Data.List.Nodup

/-!
# Plans and subscriptions

The billing tables.  Their unique constraints are fields of the database, so that no list of rows
that breaks one is ever a database.
-/

namespace Kanzan.Billing

inductive Tier where
  | free
  | pro
  | enterprise
deriving DecidableEq

/-- A plan, which tenants share. -/
structure Plan where
  tier : Tier
  name : String
  stripeProductId : String
  stripePriceMonthly : String := ""
  stripePriceYearly : String := ""
  maxUsers : Option ℕ := none
deriving DecidableEq

inductive Status where
  | trialing
  | active
  | pastDue
  | canceled
  | incomplete
  | unpaid
deriving DecidableEq

inductive BillingCycle where
  | monthly
  | yearly
deriving DecidableEq

/-- What a tenant has subscribed to, as far as Stripe has told. -/
structure Subscription where
  tenant : ℕ
  plan : Plan
  stripeSubscriptionId : Option String := none
  stripeCustomerId : String
  status : Status := .active
  billingCycle : BillingCycle := .monthly
  currentPeriodStart : Option ℕ := none
  currentPeriodEnd : Option ℕ := none
  cancelAtPeriodEnd : Bool := false
  canceledAt : Option ℕ := none
  trialEnd : Option ℕ := none
deriving DecidableEq

/-- The unique constraints, on two rows: no tenant twice, no id of Stripe twice. -/
def Subscription.Distinct (row other : Subscription) : Prop :=
  row.tenant ≠ other.tenant ∧
    (row.stripeSubscriptionId = none ∨ row.stripeSubscriptionId ≠ other.stripeSubscriptionId)

instance (row other : Subscription) : Decidable (row.Distinct other) :=
  inferInstanceAs (Decidable (_ ∧ _))

/-- The tables, with the plans in their order. -/
structure Db where
  plans : List Plan
  tenants : List ℕ
  subscriptions : List Subscription
  distinct : subscriptions.Pairwise Subscription.Distinct

namespace Db

/-- The rows of subscriptions are replaced, unless a constraint forbids it. -/
def commit (db : Db) (subscriptions : List Subscription) : Except String Db :=
  if distinct : subscriptions.Pairwise Subscription.Distinct then
    .ok { db with subscriptions, distinct }
  else .error "duplicate key value violates unique constraint"

def subscriptionOf (db : Db) (tenant : ℕ) : Option Subscription :=
  db.subscriptions.find? fun row => row.tenant == tenant

end Db

/-!
## The limits of a plan

`PlanLimitChecker`, as far as it counts users.
-/

/-- The plan of a tenant: that of its subscription, or else the free one. -/
def Db.planOf (db : Db) (tenant : ℕ) : Option Plan :=
  match db.subscriptionOf tenant with
  | some subscription => some subscription.plan
  | none => db.plans.find? fun plan => plan.tier == .free

/-- `_check_limit`. -/
def checkLimit (plan : Plan) (limit : Option ℕ) (current : ℕ) (resource : String) :
    Except String Unit :=
  match limit with
  | none => .ok ()
  | some limit =>
    if limit ≤ current then
      .error ("Plan limit reached: your " ++ plan.name ++ " plan allows a maximum of " ++
        toString limit ++ " " ++ resource ++ ". Please upgrade to continue.")
    else .ok ()

/-- `check_can_add_user`, for the number of active members. -/
def checkCanAddUser (db : Db) (tenant activeMembers : ℕ) : Except String Unit :=
  match db.planOf tenant with
  | none => .error "No active plan found. Please subscribe to a plan."
  | some plan => checkLimit plan plan.maxUsers activeMembers "users"

/-- `max_users` of the plan of a tenant. -/
def Db.maxUsers (db : Db) (tenant : ℕ) : Option ℕ := (db.planOf tenant).bind Plan.maxUsers

end Kanzan.Billing

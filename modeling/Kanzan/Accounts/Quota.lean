import Kanzan.Accounts.Endpoints
import Kanzan.Support.Processes

/-!
# Active members and the limit of the plan

Workers run requests about members, each with its checks first and its writes one by one, and with
turns of others between any two of them.
-/

namespace Kanzan.Accounts

open Support

/-- What a worker does next. -/
inductive Action where
  | begin (call : Call) (request : Request)
  | write
  /-- The process dies. -/
  | abandon

def act (site : Site) (_worker : ℕ) (db : Db) (pending : List Write) : Action → Db × List Write
  | .begin call request =>
    match pending with
    | [] => (db, writesOf (check site call request db))
    | _ => (db, pending)
  | .write =>
    match pending with
    | [] => (db, [])
    | write :: rest =>
      match commit write db with
      | .error _ => (db, [])
      | .ok db => (db, rest)
  | .abandon => (db, [])

abbrev turn (site : Site) : World Db (List Write) → ℕ × Action → World Db (List Write) :=
  World.turn (act site)

/-- No request is under way. -/
def opening (db : Db) : World Db (List Write) where
  shared := db
  locals _ := []

def Membership.counts (tenant : ℕ) (row : Membership) : Bool :=
  row.tenant == tenant && row.isActive

def activates (tenant : ℕ) (write : Write) (db : Db) : Bool :=
  match write with
  | .addMember membership | .getOrAddMember membership =>
    membership.counts tenant &&
      !db.memberships.any (Membership.isOf membership.tenant membership.user)
  | .saveMember index membership =>
    (db.memberships[index]?).any fun row => !row.counts tenant && membership.counts tenant
  | .setActive index =>
    (db.memberships[index]?).any fun row => row.tenant == tenant && !row.isActive
  | _ => false

/-- A tenant has no more active memberships than its plan allows. -/
def Within (tenant : ℕ) (world : World Db (List Write)) : Prop :=
  ∀ limit ∈ world.shared.billing.maxUsers tenant, world.shared.activeMembers tenant ≤ limit

/-- A write that activates a membership finds fewer than the plan allows. -/
def HasRoom (tenant : ℕ) (world : World Db (List Write)) : ℕ × Action → Prop
  | (worker, .write) => ∀ write ∈ (world.locals worker).head?,
      activates tenant write world.shared = true →
        ∀ limit ∈ world.shared.billing.maxUsers tenant, world.shared.activeMembers tenant < limit
  | _ => True

instance HasRoom.decidable (tenant : ℕ) (world : World Db (List Write)) :
    ∀ event, Decidable (HasRoom tenant world event)
  | (_, .write) => inferInstanceAs (Decidable (∀ write ∈ _, _ → ∀ limit ∈ _, _))
  | (_, .begin _ _) => isTrue trivial
  | (_, .abandon) => isTrue trivial

variable {f : Membership → Membership} {rows : List Membership} {index : ℕ} {detail : String}

section Laws

variable {db db' : Db} {tenant : ℕ} {write : Write}

theorem commit_billing (hcommit : commit write db = .ok db') : db'.billing = db.billing := by
  cases write with
  | addUser | addMember | getOrAddMember | addInvitation =>
    simp only [commit] at hcommit
    split at hcommit
    · cases hcommit
    · obtain rfl := Except.ok.inj hcommit
      rfl
  | _ =>
    obtain rfl := Except.ok.inj hcommit
    rfl

theorem countP_modify {row : Membership} {p : Membership → Bool} (hrow : rows[index]? = some row) :
    (rows.modify index f).countP p + (p row).toNat = rows.countP p + (p (f row)).toNat := by
  obtain ⟨hlt, hget⟩ := List.getElem?_eq_some_iff.mp hrow
  have hmodify : rows.modify index f = rows.set index (f row) := by
    rw [List.modify_eq_set_getElem?, hrow]
    rfl
  have hpos : p row = true → 0 < rows.countP p := fun hp =>
    List.countP_pos_iff.mpr ⟨row, List.mem_of_getElem? hrow, hp⟩
  rw [hmodify, List.countP_set hlt, hget]
  cases hp : p row with
  | false => cases hq : p (f row) <;> simp
  | true =>
    have hcount := hpos hp
    cases hq : p (f row) <;> simp <;> omega

theorem modify_of_none (hnone : rows[index]? = none) : rows.modify index f = rows := by
  rw [List.modify_eq_set_getElem?, hnone]
  rfl

theorem activeMembers_insert {membership : Membership}
    (hinserted : (if db.memberships.any (Membership.isOf membership.tenant membership.user) then
        .error detail else .ok { db with memberships := db.memberships ++ [membership] }) =
      (.ok db' : Except String Db)) :
    if membership.counts tenant &&
        !db.memberships.any (Membership.isOf membership.tenant membership.user) then
      db'.activeMembers tenant = db.activeMembers tenant + 1
    else db'.activeMembers tenant ≤ db.activeMembers tenant := by
  cases hany : db.memberships.any (Membership.isOf membership.tenant membership.user) with
  | true =>
    rw [hany] at hinserted
    cases hinserted
  | false =>
    rw [hany] at hinserted
    obtain rfl := Except.ok.inj hinserted
    have hcount : Db.activeMembers { db with memberships := db.memberships ++ [membership] } tenant =
        db.activeMembers tenant + if membership.counts tenant then 1 else 0 := by
      rw [Db.activeMembers, List.countP_append, List.countP_singleton]
      rfl
    rw [hcount]
    cases hcounts : membership.counts tenant with
    | false => simp
    | true => simp

theorem activeMembers_modify (db : Db) (tenant index : ℕ) (f : Membership → Membership) :
    let count := Db.activeMembers { db with memberships := db.memberships.modify index f } tenant
    if (db.memberships[index]?).any fun row => !row.counts tenant && (f row).counts tenant then
      count = db.activeMembers tenant + 1
    else count ≤ db.activeMembers tenant := by
  intro count
  cases hrow : db.memberships[index]? with
  | none => simp [count, Db.activeMembers, modify_of_none hrow]
  | some row =>
    have hcount : count + (row.counts tenant).toNat =
        db.activeMembers tenant + ((f row).counts tenant).toNat := countP_modify hrow
    rw [Option.any_some]
    cases hbefore : row.counts tenant <;> cases hafter : (f row).counts tenant <;>
      simp [hbefore, hafter] at hcount ⊢ <;> omega

theorem activeMembers_kept (index : ℕ)
    (hsame : ∀ row : Membership, (f row).counts tenant = row.counts tenant) :
    Db.activeMembers { db with memberships := db.memberships.modify index f } tenant ≤
      db.activeMembers tenant := by
  have hstep := activeMembers_modify db tenant index f
  have hnone : ((db.memberships[index]?).any fun row =>
      !row.counts tenant && (f row).counts tenant) = false := by
    simp [hsame]
  rwa [hnone, if_neg Bool.false_ne_true] at hstep

theorem activeMembers_commit (tenant : ℕ) (hcommit : commit write db = .ok db') :
    if activates tenant write db then db'.activeMembers tenant = db.activeMembers tenant + 1
    else db'.activeMembers tenant ≤ db.activeMembers tenant := by
  cases write with
  | addMember membership => exact activeMembers_insert hcommit
  | getOrAddMember membership => exact activeMembers_insert hcommit
  | saveMember index membership =>
    obtain rfl := Except.ok.inj hcommit
    exact activeMembers_modify db tenant index fun row =>
      { membership with temporaryPermissions := row.temporaryPermissions }
  | setActive index =>
    have hsame : (fun row : Membership => row.tenant == tenant && !row.isActive) =
        fun row => !row.counts tenant &&
          ({ row with isActive := true } : Membership).counts tenant := by
      funext row
      simp only [Membership.counts]
      cases row.tenant == tenant <;> cases row.isActive <;> rfl
    obtain rfl := Except.ok.inj hcommit
    rw [activates, hsame]
    exact activeMembers_modify db tenant index _
  | deactivate owner user =>
    obtain rfl := Except.ok.inj hcommit
    change (List.countP _ (List.map _ _)) ≤ _
    rw [List.countP_map]
    refine List.countP_mono_left fun row _ hcounts => ?_
    simp only [Function.comp_apply] at hcounts
    split at hcounts
    · simp at hcounts
    · exact hcounts
  | saveTemporaryRole index role expiresAt grantedBy grantedAt =>
    obtain rfl := Except.ok.inj hcommit
    exact activeMembers_kept index fun _ => rfl
  | setPermissions index permissions =>
    obtain rfl := Except.ok.inj hcommit
    exact activeMembers_kept index fun _ => rfl
  | addUser | addInvitation =>
    rw [commit] at hcommit
    split at hcommit
    · cases hcommit
    · obtain rfl := Except.ok.inj hcommit
      exact Nat.le_refl _
  | markAccepted | dropInvitations =>
    obtain rfl := Except.ok.inj hcommit
    exact Nat.le_refl _

theorem not_activates_of_error (hcommit : commit write db = .error detail) :
    activates tenant write db = false := by
  cases write with
  | addMember membership | getOrAddMember membership =>
    rw [commit] at hcommit
    split at hcommit
    · rename_i hany
      simp [activates, hany]
    · cases hcommit
  | addUser | addInvitation => rfl
  | _ => cases hcommit

theorem within_turn_iff {site : Site} {world : World Db (List Write)} {event : ℕ × Action}
    (within : Within tenant world) :
    Within tenant (turn site world event) ↔ HasRoom tenant world event := by
  obtain ⟨worker, action⟩ := event
  cases action with
  | begin call request =>
    refine iff_of_true ?_ trivial
    have hshared : (turn site world (worker, .begin call request)).shared = world.shared := by
      simp only [World.turn, act]
      split <;> rfl
    unfold Within
    rw [hshared]
    exact within
  | abandon => exact iff_of_true within trivial
  | write =>
    cases hpending : world.locals worker with
    | nil =>
      refine iff_of_true ?_ fun write hwrite => ?_
      · have hshared : (turn site world (worker, .write)).shared = world.shared := by
          simp only [World.turn, act, hpending]
        unfold Within
        rw [hshared]
        exact within
      · rw [hpending] at hwrite
        exact absurd hwrite (Option.not_mem_none write)
    | cons write rest =>
      have hroom : HasRoom tenant world (worker, .write) ↔
          (activates tenant write world.shared = true →
            ∀ limit ∈ world.shared.billing.maxUsers tenant,
              world.shared.activeMembers tenant < limit) := by
        simp [HasRoom, hpending]
      rw [hroom]
      cases hcommit : commit write world.shared with
      | error detail =>
        have hshared : (turn site world (worker, .write)).shared = world.shared := by
          simp only [World.turn, act, hpending, hcommit]
        refine iff_of_true ?_ fun hactivates => ?_
        · unfold Within
          rw [hshared]
          exact within
        · rw [not_activates_of_error hcommit] at hactivates
          cases hactivates
      | ok db' =>
        have hshared : (turn site world (worker, .write)).shared = db' := by
          simp only [World.turn, act, hpending, hcommit]
        have hcount := activeMembers_commit tenant hcommit
        unfold Within
        rw [hshared, commit_billing hcommit]
        cases hactivates : activates tenant write world.shared with
        | true =>
          rw [hactivates, if_pos rfl] at hcount
          rw [hcount]
          exact ⟨fun h _ => h, fun h => h rfl⟩
        | false =>
          rw [hactivates, if_neg Bool.false_ne_true] at hcount
          refine iff_of_true (fun limit hlimit => ?_) fun hfalse => absurd hfalse Bool.false_ne_true
          exact Nat.le_trans hcount (within limit hlimit)

end Laws

/-- A tenant whose plan allows two users, with an administrator. -/
def twoSeats : Db where
  users := ["admin"]
  roles := [{ id := 1, tenant := 1, slug := "admin", hierarchyLevel := 10 }]
  memberships :=
    [{ user := "admin", tenant := 1
       role := { id := 1, tenant := 1, slug := "admin", hierarchyLevel := 10 } }]
  billing :=
    { plans := [{ tier := .free, name := "Free", stripeProductId := "free", maxUsers := some 2 }]
      tenants := [1]
      subscriptions := []
      distinct := .nil }

/-- A site that takes addresses as they are. -/
def literally : Site where
  lower := id
  normalizeEmail := id

/-- The administrator creates a user. -/
def creates (email : String) : List (ℕ × Action) :=
  [(0, .begin { tenant := 1, user := some "admin", now := 0 } (.createUser email "secret" (some 1))),
    (0, .write), (0, .write)]

theorem within_twoSeats : Within 1 (opening twoSeats) := by
  intro limit hlimit
  have htwo : (opening twoSeats).shared.billing.maxUsers 1 = some 2 := by decide
  obtain rfl := Option.some.inj (htwo.symm.trans hlimit)
  decide

end Kanzan.Accounts

import Kanzan.Accounts.Endpoints
import Kanzan.Support.Lists

/-!
# Requests against those who outrank the caller

What the requests of a member do to memberships whose permanent or effective role has a lower level
than the caller's, and which roles they hand out.
-/

namespace Kanzan.Accounts

open Support

/-- A membership whose permanent or effective role has a level below the given one. -/
def Membership.Outranks (level now : ℕ) (row : Membership) : Prop :=
  row.role.hierarchyLevel < level ∨ row.level now < level

instance (level now : ℕ) (row : Membership) : Decidable (row.Outranks level now) :=
  inferInstanceAs (Decidable (_ ∨ _))

/-- What a request of a caller with the given level may make of one membership. -/
structure Treats (level now : ℕ) (row row' : Membership) : Prop where
  kept : row.Outranks level now → (row.isActive = true → row'.isActive = true) ∧
    row'.role = row.role ∧ row'.effectiveRole now = row.effectiveRole now
  role : row'.role ≠ row.role → level ≤ row'.role.hierarchyLevel
  temporary : row'.temporaryRole ≠ row.temporaryRole ∨
    row'.temporaryRoleExpiresAt ≠ row.temporaryRoleExpiresAt →
      ∀ role ∈ row'.temporaryRole, level ≤ role.hierarchyLevel

/--
A request of a caller with the given level deactivates, deletes and changes no membership of the
tenant that outranks the caller, and creates and grants no role that does.
-/
structure Respects (call : Call) (level : ℕ) (db db' : Db) : Prop where
  rows : ∀ (index : ℕ) (row : Membership), db.memberships[index]? = some row → row.tenant = call.tenant →
    ∃ row', db'.memberships[index]? = some row' ∧ Treats level call.now row row'
  added : ∀ (index : ℕ) (row : Membership), db'.memberships[index]? = some row → db.memberships[index]? = none →
    row.tenant = call.tenant → level ≤ row.role.hierarchyLevel ∧ row.temporaryRole = none
  invited : ∀ invitation ∈ db'.invitations,
    (∀ old ∈ db.invitations, old.token ≠ invitation.token) →
      level ≤ invitation.role.hierarchyLevel

section Rows

variable {call : Call} {level : ℕ} {db db' : Db}

theorem Treats.refl (row : Membership) : Treats level call.now row row where
  kept _ := ⟨id, rfl, rfl⟩
  role hne := absurd rfl hne
  temporary hne := by
    rcases hne with hne | hne
    · exact absurd rfl hne
    · exact absurd rfl hne

theorem respects_of_memberships_eq (hrows : db'.memberships = db.memberships)
    (hinvited : ∀ invitation ∈ db'.invitations,
      (∀ old ∈ db.invitations, old.token ≠ invitation.token) →
        level ≤ invitation.role.hierarchyLevel) : Respects call level db db' where
  rows index row hrow _ := ⟨row, hrows ▸ hrow, Treats.refl row⟩
  added index row hrow hnone _ := by
    rw [hrows, hnone] at hrow
    cases hrow
  invited := hinvited

theorem Respects.of_memberships_eq {db'' : Db} (respects : Respects call level db db')
    (hrows : db''.memberships = db'.memberships)
    (hinvited : ∀ invitation ∈ db''.invitations,
      (∀ old ∈ db.invitations, old.token ≠ invitation.token) →
        level ≤ invitation.role.hierarchyLevel) : Respects call level db db'' where
  rows := hrows ▸ respects.rows
  added := hrows ▸ respects.added
  invited := hinvited

theorem not_invited (hold : ∀ invitation ∈ db'.invitations,
    ∃ old ∈ db.invitations, old.token = invitation.token) :
    ∀ invitation ∈ db'.invitations,
      (∀ old ∈ db.invitations, old.token ≠ invitation.token) →
        level ≤ invitation.role.hierarchyLevel := by
  intro invitation hmem hnew
  obtain ⟨old, hmem', htoken⟩ := hold invitation hmem
  exact absurd htoken (hnew old hmem')

theorem respects_refl : Respects call level db db :=
  respects_of_memberships_eq rfl (not_invited fun invitation hmem => ⟨invitation, hmem, rfl⟩)

theorem respects_modify (index : ℕ) (f : Membership → Membership)
    (htreats : ∀ row, db.memberships[index]? = some row → Treats level call.now row (f row)) :
    Respects call level db { db with memberships := db.memberships.modify index f } where
  rows other row hrow _ := by
    by_cases hsame : index = other
    · subst hsame
      refine ⟨f row, ?_, htreats row hrow⟩
      simp [hrow]
    · refine ⟨row, ?_, Treats.refl row⟩
      rw [List.getElem?_modify_ne f db.memberships hsame]
      exact hrow
  added other row hrow hnone _ := by
    rw [List.getElem?_modify, hnone] at hrow
    cases hrow
  invited := not_invited fun invitation hmem => ⟨invitation, hmem, rfl⟩

theorem respects_append {membership : Membership} {users : List String}
    (hrole : membership.tenant = call.tenant → level ≤ membership.role.hierarchyLevel)
    (hplain : membership.temporaryRole = none) :
    Respects call level db
      { db with users, memberships := db.memberships ++ [membership] } where
  rows index row hrow _ := by
    refine ⟨row, ?_, Treats.refl row⟩
    exact getElem?_concat_eq_some.mpr (.inl hrow)
  added index row hrow hnone htenant := by
    rcases getElem?_concat_eq_some.mp hrow with hrow | ⟨-, rfl⟩
    · rw [hnone] at hrow
      cases hrow
    · exact ⟨hrole htenant, hplain⟩
  invited := not_invited fun invitation hmem => ⟨invitation, hmem, rfl⟩

end Rows

variable {α : Type} {user detail refusal email : String} {made : List Write} {expiry : Expiry}
variable {condition : Prop} {roleId : Option ℕ} {token : ℕ}

/-! ## What the checks let through -/

section Checks

variable {site : Site} {call : Call} {db : Db} {actor : Membership} {writes : List Write}
variable {level : ℕ}

theorem actorOf_ok (hok : actorOf call level refusal db = .ok actor) :
    call.actor db = some actor := by
  unfold actorOf at hok
  cases hactor : call.actor db with
  | none =>
    rw [hactor] at hok
    cases hok
  | some found =>
    rw [hactor] at hok
    dsimp only at hok
    split at hok
    · exact congrArg some (Except.ok.inj hok)
    · cases hok

theorem bind_ok {β : Type} {x : Except Refusal α} {f : α → Except Refusal β} {b : β}
    (hok : (x >>= f) = .ok b) : ∃ a, x = .ok a ∧ f a = .ok b := by
  cases x with
  | error refusal => cases hok
  | ok a => exact ⟨a, rfl, hok⟩

theorem guard_ok [Decidable condition] {rest : Except Refusal α} {a : α}
    (hok : (if condition then (refuse detail made : Except Refusal PUnit) >>= fun _ => rest
      else rest) = .ok a) : ¬ condition ∧ rest = .ok a := by
  by_cases hcondition : condition
  · rw [if_pos hcondition] at hok
    cases hok
  · rw [if_neg hcondition] at hok
    exact ⟨hcondition, hok⟩

theorem destroyUser_ok (hok : destroyUser call user db = .ok writes) :
    writes = [.deactivate call.tenant user] := by
  unfold destroyUser at hok
  obtain ⟨actor, -, hok⟩ := bind_ok hok
  obtain ⟨-, hok⟩ := guard_ok hok
  exact (Except.ok.inj hok).symm

theorem createUser_ok {password : String} (hactor : call.actor db = some actor)
    (hok : createUser site call email password roleId db = .ok writes) :
    ∃ membership : Membership, actor.level call.now ≤ membership.role.hierarchyLevel ∧
      membership.temporaryRole = none ∧
        (writes = [.addMember membership] ∨
          writes = [.addUser membership.user, .addMember membership]) := by
  unfold createUser at hok
  obtain ⟨found, hfound, hok⟩ := bind_ok hok
  obtain rfl := Option.some.inj (hactor.symm.trans (actorOf_ok hfound))
  obtain ⟨-, hok⟩ := guard_ok hok
  cases roleId with
  | none => cases hok
  | some id =>
    dsimp only at hok
    cases hrole : db.roleOf call.tenant id with
    | none =>
      rw [hrole] at hok
      cases hok
    | some role =>
      rw [hrole] at hok
      obtain ⟨hlevel, hok⟩ := guard_ok hok
      have hle := Nat.le_of_not_lt hlevel
      split at hok
      · obtain ⟨-, hok⟩ := guard_ok hok
        exact ⟨_, hle, rfl, .inl (Except.ok.inj hok).symm⟩
      · exact ⟨{ user := site.normalizeEmail (Mail.strip email), tenant := call.tenant, role
                 invitedBy := call.user }, hle, rfl, .inr (Except.ok.inj hok).symm⟩

theorem updateMembership_ok {index : ℕ} {isActive : Option Bool}
    (hactor : call.actor db = some actor)
    (hok : updateMembership call index roleId isActive db = .ok writes) :
    ∃ target, db.memberships[index]? = some target ∧ target.tenant = call.tenant ∧
      actor.level call.now ≤ target.level call.now ∧
      (∀ role, roleId.bind (db.roleOf call.tenant) = some role →
        actor.level call.now ≤ role.hierarchyLevel) ∧
      writes = [.saveMember index
        { target with
          role := (roleId.bind (db.roleOf call.tenant)).getD target.role
          isActive := isActive.getD target.isActive }] := by
  unfold updateMembership at hok
  obtain ⟨found, hfound, hok⟩ := bind_ok hok
  obtain rfl := Option.some.inj (hactor.symm.trans (actorOf_ok hfound))
  cases htarget : db.memberships[index]? with
  | none =>
    rw [htarget] at hok
    cases hok
  | some target =>
    rw [htarget] at hok
    obtain ⟨htenant, hok⟩ := guard_ok hok
    obtain ⟨-, hok⟩ := guard_ok hok
    obtain ⟨hlevel, hok⟩ := guard_ok hok
    obtain ⟨hrole, hok⟩ := guard_ok hok
    refine ⟨target, rfl, not_not.mp htenant, Nat.le_of_not_lt hlevel, ?_,
      (Except.ok.inj hok).symm⟩
    intro role hbind
    rw [hbind, Option.any_some, decide_eq_true_eq] at hrole
    exact Nat.le_of_not_lt hrole

theorem invite_ok {roleId : ℕ} (hactor : call.actor db = some actor)
    (hok : invite site call email roleId token db = .ok writes) :
    ∃ tokens invitation, actor.level call.now ≤ invitation.role.hierarchyLevel ∧
      writes = [.dropInvitations tokens, .addInvitation invitation] := by
  unfold invite at hok
  obtain ⟨found, hfound, hok⟩ := bind_ok hok
  obtain rfl := Option.some.inj (hactor.symm.trans (actorOf_ok hfound))
  cases hrole : db.roleOf call.tenant roleId with
  | none =>
    rw [hrole] at hok
    cases hok
  | some role =>
    rw [hrole] at hok
    obtain ⟨-, hok⟩ := guard_ok hok
    obtain ⟨-, hok⟩ := guard_ok hok
    cases hroom : Billing.checkCanAddUser db.billing call.tenant
        (db.activeMembers call.tenant) with
    | error detail =>
      rw [hroom] at hok
      cases hok
    | ok room =>
      rw [hroom] at hok
      obtain ⟨hlevel, hok⟩ := guard_ok hok
      exact ⟨_, _, Nat.le_of_not_lt hlevel, (Except.ok.inj hok).symm⟩

theorem expiryOf_ok {expiresAt : ℕ} (hok : expiryOf call expiry = .ok expiresAt) :
    call.now < expiresAt := by
  unfold expiryOf at hok
  split at hok
  · cases hok
  · split at hok
    · cases hok
    · obtain rfl := Except.ok.inj hok
      omega
  · cases hok
  · split at hok
    · cases hok
    · obtain rfl := Except.ok.inj hok
      omega
  · cases hok

theorem grantTempRole_ok {roleId : ℕ} {permissionIds : List ℕ}
    (hok : grantTempRole call user roleId permissionIds expiry db = .ok writes) :
    ∃ index target role expiresAt grantedBy permissions,
      activeMember call user db = some (index, target) ∧
      db.roleOf call.tenant roleId = some role ∧ call.now < expiresAt ∧
      writes = [.saveTemporaryRole index (some role) (some expiresAt) grantedBy (some call.now),
        .setPermissions index permissions] := by
  unfold grantTempRole at hok
  obtain ⟨found, -, hok⟩ := bind_ok hok
  cases htarget : activeMember call user db with
  | none =>
    rw [htarget] at hok
    cases hok
  | some member =>
    obtain ⟨index, target⟩ := member
    rw [htarget] at hok
    obtain ⟨-, hok⟩ := guard_ok hok
    cases hrole : db.roleOf call.tenant roleId with
    | none =>
      rw [hrole] at hok
      cases hok
    | some role =>
      rw [hrole] at hok
      obtain ⟨-, hok⟩ := guard_ok hok
      obtain ⟨-, hok⟩ := guard_ok hok
      obtain ⟨expiresAt, hexpiry, hok⟩ := bind_ok hok
      exact ⟨index, target, role, expiresAt, _, _, rfl, rfl, expiryOf_ok hexpiry,
        (Except.ok.inj hok).symm⟩

theorem revokeTempRole_ok (hok : revokeTempRole call user db = .ok writes) :
    ∃ index target, activeMember call user db = some (index, target) ∧
      writes = [.saveTemporaryRole index none none none none, .setPermissions index []] := by
  unfold revokeTempRole at hok
  obtain ⟨found, -, hok⟩ := bind_ok hok
  cases htarget : activeMember call user db with
  | none =>
    rw [htarget] at hok
    cases hok
  | some member =>
    obtain ⟨index, target⟩ := member
    rw [htarget] at hok
    obtain ⟨-, hok⟩ := guard_ok hok
    exact ⟨index, target, rfl, (Except.ok.inj hok).symm⟩

theorem reactivate_ok (hok : reactivate call user db = .ok writes) :
    ∃ index, writes = [.setActive index] := by
  unfold reactivate at hok
  obtain ⟨found, -, hok⟩ := bind_ok hok
  cases hindex : db.memberships.findIdx? (Membership.isOf call.tenant user) with
  | none =>
    rw [hindex] at hok
    cases hok
  | some index =>
    rw [hindex] at hok
    obtain ⟨-, hok⟩ := guard_ok hok
    exact ⟨index, (Except.ok.inj hok).symm⟩

theorem acceptInvitation_ok {registration : Option String}
    (hok : acceptInvitation site call token registration db = .ok writes)
    (huser : call.user = some user) :
    ∃ membership : Membership, membership.user = user ∧ membership.temporaryRole = none ∧
      writes = [.getOrAddMember membership, .markAccepted token call.now] := by
  unfold acceptInvitation at hok
  split at hok
  · cases hok
  · split at hok
    · cases hok
    · split at hok
      · cases hok
      · rw [huser] at hok
        dsimp only at hok
        split at hok
        · exact ⟨_, rfl, rfl, (Except.ok.inj hok).symm⟩
        · cases hok

/-- Writes that a refusal may leave: expired invitations dropped, an account made. -/
def Mild (made : List Write) : Prop :=
  ∀ write ∈ made, (∃ tokens, write = .dropInvitations tokens) ∨ ∃ email, write = .addUser email

def Harmless {α : Type} (outcome : Except Refusal α) : Prop :=
  ∀ refusal, outcome = .error refusal → Mild refusal.made

theorem mild_nil : Mild [] := nofun

theorem Harmless.refuse (mild : Mild made) :
    Harmless (Accounts.refuse detail made : Except Refusal α) := by
  rintro refusal ⟨⟩
  exact mild

theorem Harmless.ok (a : α) : Harmless (.ok a : Except Refusal α) := nofun

theorem Harmless.bind {β : Type} {x : Except Refusal α} {f : α → Except Refusal β} (hx : Harmless x)
    (hf : ∀ a, Harmless (f a)) : Harmless (x >>= f) := by
  cases x with
  | error refusal => exact fun refusal' heq => hx refusal' (by cases heq; rfl)
  | ok a => exact hf a

theorem Harmless.guard [Decidable condition] {rest : Except Refusal α} (mild : Mild made)
    (hrest : Harmless rest) :
    Harmless (if condition then (Accounts.refuse detail made : Except Refusal PUnit) >>= fun _ => rest
      else rest) := by
  by_cases hcondition : condition
  · rw [if_pos hcondition]
    exact (Harmless.refuse mild).bind fun _ => hrest
  · rw [if_neg hcondition]
    exact hrest

theorem harmless_actorOf : Harmless (actorOf call level refusal db) := by
  unfold actorOf
  split
  · exact .refuse mild_nil
  · split
    · exact .ok _
    · exact .refuse mild_nil

theorem harmless_expiryOf : Harmless (expiryOf call expiry) := by
  unfold expiryOf
  split
  · exact .refuse mild_nil
  · split
    · exact .refuse mild_nil
    · exact .ok _
  · exact .refuse mild_nil
  · split
    · exact .refuse mild_nil
    · exact .ok _
  · exact .refuse mild_nil

theorem harmless_check (request : Request) : Harmless (check site call request db) := by
  cases request with
  | createUser email password role =>
    refine harmless_actorOf.bind fun actor => .guard mild_nil ?_
    split
    · exact .refuse mild_nil
    · split
      · exact .refuse mild_nil
      · refine .guard mild_nil ?_
        split
        · exact .guard mild_nil (.ok _)
        · exact .ok _
  | destroyUser user => exact harmless_actorOf.bind fun actor => .guard mild_nil (.ok _)
  | updateMembership index role isActive =>
    refine harmless_actorOf.bind fun actor => ?_
    split
    · exact .refuse mild_nil
    · exact .guard mild_nil (.guard mild_nil (.guard mild_nil (.guard mild_nil (.ok _))))
  | invite email role token =>
    have hdropped : ∀ tokens, Mild [.dropInvitations tokens] := by
      intro tokens write hmem
      exact .inl ⟨tokens, List.mem_singleton.mp hmem⟩
    refine harmless_actorOf.bind fun actor => ?_
    split
    · exact .refuse mild_nil
    · refine .guard mild_nil (.guard (hdropped _) ?_)
      split
      · exact .refuse (hdropped _)
      · exact .guard (hdropped _) (.ok _)
  | acceptInvitation token registration =>
    have hadded : ∀ user, Mild [.addUser user] := by
      intro user write hmem
      exact .inr ⟨user, List.mem_singleton.mp hmem⟩
    change Harmless (acceptInvitation site call token registration db)
    unfold acceptInvitation
    split
    · exact .refuse mild_nil
    · split
      · exact .refuse mild_nil
      · split
        · exact .refuse mild_nil
        · dsimp only
          split
          · split
            · exact .ok _
            · exact .refuse mild_nil
          · exact .refuse mild_nil
          · split
            · exact .refuse mild_nil
            · split
              · exact .ok _
              · exact .refuse (hadded _)
  | grantTempRole user role permissionIds expiry =>
    refine harmless_actorOf.bind fun actor => ?_
    split
    · exact .refuse mild_nil
    · refine .guard mild_nil ?_
      split
      · exact .refuse mild_nil
      · exact .guard mild_nil (.guard mild_nil (harmless_expiryOf.bind fun expiresAt => .ok _))
  | revokeTempRole user =>
    refine harmless_actorOf.bind fun actor => ?_
    split
    · exact .refuse mild_nil
    · exact .guard mild_nil (.ok _)
  | reactivate user =>
    refine harmless_actorOf.bind fun actor => ?_
    split
    · exact .refuse mild_nil
    · exact .guard mild_nil (.ok _)

end Checks

end Kanzan.Accounts

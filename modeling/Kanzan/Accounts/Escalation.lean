import Kanzan.Accounts.Hierarchy
import Kanzan.Support.Runs

/-!
# Requests that respect the hierarchy

Which requests must not be let through, and that every run without them respects the hierarchy.
-/

namespace Kanzan.Accounts

open Support

/-- What a request that is let through must not be, for a caller with the given level. -/
def Modest (call : Call) (level : ℕ) (db : Db) : Request → Prop
  | .destroyUser user => ∀ row ∈ db.memberships, row.isOf call.tenant user = true →
      row.isActive = true → ¬ row.Outranks level call.now
  | .updateMembership index role isActive => ∀ row ∈ db.memberships[index]?,
      row.Outranks level call.now →
        (role.bind (db.roleOf call.tenant)).getD row.role = row.role ∧
          (row.isActive = true → isActive ≠ some false)
  | .grantTempRole user role _ _ => ∀ granted ∈ db.roleOf call.tenant role,
      level ≤ granted.hierarchyLevel ∧ ∀ member ∈ activeMember call user db,
        member.2.Outranks level call.now → granted = member.2.effectiveRole call.now
  | .revokeTempRole user => ∀ member ∈ activeMember call user db,
      member.2.Outranks level call.now → member.2.effectiveRole call.now = member.2.role
  | _ => True

instance Modest.decidable (call : Call) (level : ℕ) (db : Db) :
    ∀ request, Decidable (Modest call level db request)
  | .destroyUser _ => inferInstanceAs (Decidable (∀ row ∈ _, _ → _ → ¬ _))
  | .updateMembership _ _ _ => inferInstanceAs (Decidable (∀ row ∈ _, _ → _ ∧ (_ → _)))
  | .grantTempRole _ _ _ _ => inferInstanceAs (Decidable (∀ granted ∈ _, _ ∧ ∀ member ∈ _, _ → _))
  | .revokeTempRole _ => inferInstanceAs (Decidable (∀ member ∈ _, _ → _))
  | .createUser _ _ _ => isTrue trivial
  | .invite _ _ _ => isTrue trivial
  | .acceptInvitation _ _ => isTrue trivial
  | .reactivate _ => isTrue trivial

variable {user : String} {index : ℕ} {membership target : Membership}

section Requests

variable {site : Site} {call : Call} {level : ℕ} {db : Db} {actor : Membership}
  {writes : List Write}

/-- What a refusal leaves changes no membership. -/
theorem respects_mild {made : List Write} (mild : Mild made) :
    Respects call level db (commitAll made db) := by
  have hkept : ∀ db' : Db, db'.memberships = db.memberships → db'.invitations ⊆ db.invitations →
      (commitAll made db').memberships = db.memberships ∧
        (commitAll made db').invitations ⊆ db.invitations := by
    induction made with
    | nil => exact fun db' hrows hold => ⟨hrows, hold⟩
    | cons write rest ih =>
      intro db' hrows hold
      have hrest := ih fun write hmem => mild write (List.mem_cons_of_mem _ hmem)
      rcases mild write List.mem_cons_self with ⟨tokens, rfl⟩ | ⟨email, rfl⟩
      · exact hrest _ hrows fun invitation hmem => hold (List.mem_of_mem_filter hmem)
      · rw [commitAll, commit]
        by_cases hknown : db'.users.contains email = true
        · rw [if_pos hknown]
          exact ⟨hrows, hold⟩
        · rw [if_neg hknown]
          exact hrest _ hrows hold
  obtain ⟨hrows, hold⟩ := hkept db rfl (List.Subset.refl _)
  exact respects_of_memberships_eq hrows (not_invited fun invitation hmem =>
    ⟨invitation, hold hmem, rfl⟩)

theorem activeMember_eq_some {row : Membership}
    (hmember : activeMember call user db = some (index, row)) :
    db.memberships[index]? = some row := by
  unfold activeMember at hmember
  dsimp only at hmember
  split at hmember
  · cases hmember
  · rw [Option.map_eq_some_iff] at hmember
    obtain ⟨found, hfound, heq⟩ := hmember
    cases heq
    exact hfound

theorem respects_deactivate (modest : Modest call level db (.destroyUser user)) :
    Respects call level db (commitAll [.deactivate call.tenant user] db) where
  rows index row hrow _ := by
    have hmem := List.mem_of_getElem? hrow
    have same : Treats level call.now row row := .refl row
    refine ⟨if row.isOf call.tenant user then { row with isActive := false } else row, ?_, ?_⟩
    · change (db.memberships.map _)[index]? = _
      rw [List.getElem?_map, hrow]
      rfl
    · by_cases hof : row.isOf call.tenant user = true
      · rw [if_pos hof]
        exact
          { kept := fun outranks =>
              ⟨fun hactive => absurd outranks (modest row hmem hof hactive), rfl, rfl⟩
            role := fun hne => absurd rfl hne
            temporary := same.temporary }
      · rw [if_neg hof]
        exact same
  added index row hrow hnone _ := by
    change (db.memberships.map _)[index]? = _ at hrow
    rw [List.getElem?_map, hnone] at hrow
    cases hrow
  invited := not_invited fun invitation hmem => ⟨invitation, hmem, rfl⟩

theorem respects_saveMember {role : Option ℕ} {isActive : Option Bool}
    (htarget : db.memberships[index]? = some target)
    (hgranted : ∀ granted, role.bind (db.roleOf call.tenant) = some granted →
      level ≤ granted.hierarchyLevel)
    (modest : Modest call level db (.updateMembership index role isActive)) :
    Respects call level db
      (commitAll [.saveMember index
        { target with
          role := (role.bind (db.roleOf call.tenant)).getD target.role
          isActive := isActive.getD target.isActive }] db) := by
  refine respects_modify index _ fun row hrow => ?_
  obtain rfl := Option.some.inj (htarget.symm.trans hrow)
  have same : Treats level call.now target target := .refl target
  exact
    { kept := by
        intro outranks
        obtain ⟨hrole, hkept⟩ := modest target htarget outranks
        refine ⟨fun hactive => ?_, hrole, ?_⟩
        · have hnot := hkept hactive
          change isActive.getD target.isActive = true
          cases isActive with
          | none => exact hactive
          | some active =>
            cases active with
            | true => rfl
            | false => exact absurd rfl hnot
        · unfold Membership.effectiveRole
          rw [hrole]
      role := by
        intro hne
        change level ≤ ((role.bind (db.roleOf call.tenant)).getD target.role).hierarchyLevel
        cases hbind : role.bind (db.roleOf call.tenant) with
        | none =>
          rw [hbind] at hne
          exact absurd rfl hne
        | some granted => exact hgranted granted hbind
      temporary := same.temporary }

theorem respects_saveTemporaryRole {role : Option Role} {expiresAt grantedAt : Option ℕ}
    {grantedBy : Option String} {permissions : List ℕ}
    (htarget : db.memberships[index]? = some target) (heffective : target.Outranks level call.now →
      Membership.effectiveRole call.now
        { target with temporaryRole := role, temporaryRoleExpiresAt := expiresAt } =
          target.effectiveRole call.now) (hrole : ∀ granted ∈ role, level ≤ granted.hierarchyLevel)
    :
    Respects call level db
      (commitAll [.saveTemporaryRole index role expiresAt grantedBy grantedAt,
        .setPermissions index permissions] db) := by
  simp only [commitAll, commit, List.modify_modify_eq]
  refine respects_modify index _ fun row hrow => ?_
  obtain rfl := Option.some.inj (htarget.symm.trans hrow)
  exact
    { kept := fun outranks => ⟨id, rfl, heffective outranks⟩
      role := fun hne => absurd rfl hne
      temporary := fun _ => hrole }

theorem respects_addMember (hrole : level ≤ membership.role.hierarchyLevel)
    (hplain : membership.temporaryRole = none) :
    Respects call level db (commitAll [.addMember membership] db) := by
  rw [commitAll, commit]
  by_cases hmember : db.memberships.any (Membership.isOf membership.tenant membership.user) = true
  · rw [if_pos hmember]
    exact respects_refl
  · rw [if_neg hmember]
    exact respects_append (fun _ => hrole) hplain

theorem respects_addUserAndMember (hrole : level ≤ membership.role.hierarchyLevel)
    (hplain : membership.temporaryRole = none) :
    Respects call level db (commitAll [.addUser user, .addMember membership] db) := by
  rw [commitAll, commit]
  by_cases huser : db.users.contains user = true
  · rw [if_pos huser]
    exact respects_refl
  · rw [if_neg huser]
    dsimp only
    rw [commitAll, commit]
    by_cases hmember : db.memberships.any (Membership.isOf membership.tenant membership.user) = true
    · rw [if_pos hmember]
      exact respects_of_memberships_eq rfl (not_invited fun invitation hmem =>
        ⟨invitation, hmem, rfl⟩)
    · rw [if_neg hmember]
      exact respects_append (fun _ => hrole) hplain

theorem respects_addInvitation {tokens : List ℕ} {invitation : Invitation}
    (hrole : level ≤ invitation.role.hierarchyLevel) :
    Respects call level db (commitAll [.dropInvitations tokens, .addInvitation invitation] db) := by
  have hdropped : ∀ {kept : List Invitation}, kept ⊆ db.invitations → ∀ other ∈ kept,
      (∀ old ∈ db.invitations, old.token ≠ other.token) → level ≤ other.role.hierarchyLevel :=
    fun hsubset other hmem hnew => absurd rfl (hnew other (hsubset hmem))
  have hfilter : (db.invitations.filter fun invitation => !tokens.contains invitation.token) ⊆
      db.invitations := fun other hmem => List.mem_of_mem_filter hmem
  simp only [commitAll, commit]
  split
  · exact respects_of_memberships_eq rfl (hdropped hfilter)
  · rename_i db' hcommit
    split at hcommit
    · cases hcommit
    · obtain rfl := Except.ok.inj hcommit
      refine respects_of_memberships_eq rfl fun other hmem hnew => ?_
      rcases List.mem_append.mp hmem with hmem | hmem
      · exact hdropped hfilter other hmem hnew
      · obtain rfl := List.mem_singleton.mp hmem
        exact hrole

theorem respects_accept {token : ℕ} (hactor : db.membershipOf call.tenant user = some actor)
    (huser : membership.user = user) (hplain : membership.temporaryRole = none) :
    Respects call level db
      (commitAll [.getOrAddMember membership, .markAccepted token call.now] db) := by
  rw [commitAll, commit]
  by_cases hmember : db.memberships.any (Membership.isOf membership.tenant membership.user) = true
  · rw [if_pos hmember]
    exact respects_refl
  · rw [if_neg hmember]
    have hother : membership.tenant = call.tenant →
        level ≤ membership.role.hierarchyLevel := by
      intro htenant
      have hfound := List.find?_some hactor
      rw [Bool.and_eq_true] at hfound
      refine absurd (List.any_eq_true.mpr ⟨actor, List.mem_of_find?_eq_some hactor, ?_⟩) hmember
      rw [htenant, huser]
      exact hfound.1
    have hadded : Respects call level db { db with memberships := db.memberships ++ [membership] } :=
      respects_append hother hplain
    refine hadded.of_memberships_eq rfl (not_invited ?_)
    intro invitation hmem
    obtain ⟨old, hold, rfl⟩ := List.mem_map.mp hmem
    refine ⟨old, hold, ?_⟩
    split <;> rfl

theorem respects_perform {request : Request} (hactor : call.actor db = some actor)
    (modest : ∀ writes, check site call request db = .ok writes →
      Modest call (actor.level call.now) db request) :
    Respects call (actor.level call.now) db (perform site call request db) := by
  unfold perform
  cases hcheck : check site call request db with
  | error refusal => exact respects_mild (harmless_check request refusal hcheck)
  | ok writes =>
    have modest := modest writes hcheck
    change Respects call _ db (commitAll writes db)
    cases request with
    | createUser email password role =>
      obtain ⟨membership, hrole, hplain, rfl | rfl⟩ := createUser_ok hactor hcheck
      · exact respects_addMember hrole hplain
      · exact respects_addUserAndMember hrole hplain
    | destroyUser user =>
      obtain rfl := destroyUser_ok hcheck
      exact respects_deactivate modest
    | updateMembership index role isActive =>
      obtain ⟨target, htarget, -, -, hgranted, rfl⟩ := updateMembership_ok hactor hcheck
      exact respects_saveMember htarget hgranted modest
    | invite email role token =>
      obtain ⟨tokens, invitation, hrole, rfl⟩ := invite_ok hactor hcheck
      exact respects_addInvitation hrole
    | acceptInvitation token registration =>
      obtain ⟨user, huser, hmember⟩ := Option.bind_eq_some_iff.mp hactor
      obtain ⟨membership, hjoins, hplain, rfl⟩ := acceptInvitation_ok hcheck huser
      exact respects_accept hmember hjoins hplain
    | grantTempRole user role permissionIds expiry =>
      obtain ⟨index, target, granted, expiresAt, grantedBy, permissions, hmember, hrole,
        hexpiry, rfl⟩ := grantTempRole_ok hcheck
      obtain ⟨hlevel, heffective⟩ := modest granted hrole
      refine respects_saveTemporaryRole (activeMember_eq_some hmember) (fun outranks => ?_) ?_
      · rw [← heffective (index, target) hmember outranks]
        simp [Membership.effectiveRole, hexpiry]
      · intro other hother
        obtain rfl := Option.some.inj hother
        exact hlevel
    | revokeTempRole user =>
      obtain ⟨index, target, hmember, rfl⟩ := revokeTempRole_ok hcheck
      refine respects_saveTemporaryRole (activeMember_eq_some hmember) (fun outranks => ?_) ?_
      · rw [modest (index, target) hmember outranks]
        rfl
      · exact fun other hother => absurd hother (Option.not_mem_none other)
    | reactivate user =>
      obtain ⟨index, rfl⟩ := reactivate_ok hcheck
      refine respects_modify index _ fun row _ => ?_
      have same : Treats (actor.level call.now) call.now row row := .refl row
      exact
        { kept := fun _ => ⟨fun _ => rfl, rfl, rfl⟩
          role := same.role
          temporary := same.temporary }

end Requests

/-! ## Runs -/

def step (site : Site) (db : Db) (event : Call × Request) : Db := perform site event.1 event.2 db

/-- Whoever makes the request, those who outrank the caller are respected. -/
def Respectful (site : Site) (db : Db) (event : Call × Request) : Prop :=
  ∀ actor ∈ event.1.actor db,
    Respects event.1 (actor.level event.1.now) db (perform site event.1 event.2 db)

def Admitted (site : Site) (db : Db) (event : Call × Request) : Prop :=
  ∀ actor ∈ event.1.actor db, (check site event.1 event.2 db).isOk = true →
    Modest event.1 (actor.level event.1.now) db event.2

instance (site : Site) (db : Db) (event : Call × Request) : Decidable (Admitted site db event) :=
  inferInstanceAs (Decidable (∀ actor ∈ _, _ → _))

/-- In a run of modest requests each respects those who outrank its caller. -/
theorem every_respectful (site : Site) (start : Db) (events : List (Call × Request))
    (admitted : Every (step site) (Admitted site) start events) :
    Every (step site) (Respectful site) start events := by
  refine admitted.mono fun db event hadmits actor hactor => ?_
  exact respects_perform hactor fun writes hcheck => hadmits actor hactor (by rw [hcheck]; rfl)

/-- An administrator, a manager and an agent. -/
def office : Db :=
  let admin : Role := { id := 1, tenant := 1, slug := "admin", hierarchyLevel := 10 }
  let manager : Role := { id := 2, tenant := 1, slug := "manager", hierarchyLevel := 20 }
  let agent : Role := { id := 3, tenant := 1, slug := "agent", hierarchyLevel := 30 }
  { users := ["admin", "manager", "agent"]
    roles := [admin, manager, agent]
    memberships :=
      [{ user := "admin", tenant := 1, role := admin },
        { user := "manager", tenant := 1, role := manager },
        { user := "agent", tenant := 1, role := agent }]
    billing := { plans := [], tenants := [1], subscriptions := [], distinct := .nil } }

/-- Addresses as they are. -/
def verbatim : Site where
  lower := id
  normalizeEmail := id

def calls (user : String) : Call := { tenant := 1, user := some user, now := 0 }

/-- The administrator lends the manager a role, promotes the agent and closes the agent's account. -/
theorem respectful_office :
    Every (step verbatim) (Respectful verbatim) office
      [(calls "admin", .grantTempRole "manager" 3 [] (.at (some 5))),
        (calls "admin", .updateMembership 2 (some 2) none),
        (calls "admin", .destroyUser "agent")] :=
  every_respectful verbatim office _ (by decide)

/-- The manager deactivates the administrator. -/
theorem not_respectful_destroyUser :
    ¬ Every (step verbatim) (Respectful verbatim) office
      [(calls "manager", .destroyUser "admin")] := by
  rintro ⟨respectful, -⟩
  have hactor : (calls "manager").actor office = office.memberships[1]? := by decide
  obtain ⟨row, hrow, treats⟩ := (respectful _ hactor).rows 0 _ rfl rfl
  have hdone : (perform verbatim (calls "manager") (.destroyUser "admin") office).memberships[0]? =
      (office.memberships[0]?).map fun row => { row with isActive := false } := by
    decide
  obtain rfl := Option.some.inj (hdone.symm.trans hrow)
  have hkept := (treats.kept (.inl (by decide))).1 rfl
  cases hkept

end Kanzan.Accounts

import Kanzan.Accounts.Permissions

/-!
# Curated grants

A temporary role that was narrowed to a set of permissions: what the permission classes let through
while it is active, beside what the permanent role alone would be let through for.
-/

namespace Kanzan.Accounts

/-- A member with an active temporary role that was narrowed to some permissions. -/
structure Grant (now : ℕ) where
  member : Membership
  temporary : Role
  expiresAt : ℕ
  granted : member.temporaryRole = some temporary
  expires : member.temporaryRoleExpiresAt = some expiresAt
  active : now < expiresAt
  curated : member.temporaryPermissions ≠ []

variable {codename : String}

namespace Grant

variable {now : ℕ} (grant : Grant now)

def permanent : Membership :=
  { grant.member with
    temporaryRole := none
    temporaryRoleExpiresAt := none
    temporaryPermissions := [] }

@[simp]
theorem effectiveRole_member : grant.member.effectiveRole now = grant.temporary := by
  simp only [Membership.effectiveRole, grant.granted, grant.expires, if_pos grant.active]

@[simp]
theorem level_member : grant.member.level now = grant.temporary.hierarchyLevel := by
  rw [Membership.level, effectiveRole_member]

@[simp]
theorem isCurated_member : grant.member.isCurated now = true := by
  rw [Membership.isCurated, Membership.hasActiveTemporaryRole, grant.granted, grant.expires,
    Option.isSome_some, Option.any_some, decide_eq_true grant.active, Bool.and_self, Bool.true_and,
    Bool.not_eq_true', List.isEmpty_eq_false_iff]
  exact grant.curated

@[simp]
theorem effectivePermissions_member : grant.member.effectivePermissions now =
    grant.temporary.permissions.filter fun id => grant.member.temporaryPermissions.contains id := by
  simp only [Membership.effectivePermissions, grant.granted, isCurated_member, if_true]

@[simp]
theorem level_permanent : grant.permanent.level now = grant.member.role.hierarchyLevel := rfl

@[simp]
theorem effectivePermissions_permanent :
    grant.permanent.effectivePermissions now = grant.member.role.permissions := rfl

def Names (catalogue : Catalogue) (codename : String) : Prop :=
  catalogue.named grant.member.temporaryPermissions codename = true

/--
What a class lets through during the grant it would let through for the permanent role alone, or its
codename is in the curated set.
-/
def Bounded (catalogue : Catalogue) (view : View) (cls : PermissionClass) : Prop :=
  catalogue.permits now view grant.member cls = true →
    catalogue.permits now view grant.permanent cls = true ∨
      ∃ codename, codenameOf view cls = some codename ∧ grant.Names catalogue codename

/-! ## The condition -/

/-- The temporary role reaches a level only if the permanent one does, or the set names the action. -/
def Reaches (catalogue : Catalogue) (view : View) (cls : PermissionClass) (bound : ℕ) : Prop :=
  grant.temporary.hierarchyLevel ≤ bound → grant.member.role.hierarchyLevel ≤ bound ∨
    ∃ codename, codenameOf view cls = some codename ∧ grant.Names catalogue codename

def Enters (catalogue : Catalogue) (level : ℕ) : Prop :=
  catalogue.canAccessInboxHub level grant.member.user grant.member.tenant = true

/-- What the permanent role alone may do in the hub under a codename. -/
def Holds (catalogue : Catalogue) (codename : String) : Prop :=
  grant.Enters catalogue grant.member.role.hierarchyLevel ∧
    if grant.member.role.permissions = [] then
      grant.member.role.hierarchyLevel ≤ Catalogue.hubFloor (verbOf codename)
    else catalogue.named grant.member.role.permissions codename = true

/--
The hub asks for the level of the temporary role where an action has no codename, and where no
permission of the temporary role is left in the curated set.
-/
def HubReaches (catalogue : Catalogue) (view : View) : Prop :=
  grant.Enters catalogue grant.temporary.hierarchyLevel →
    if agentLevelActions.contains view.action = true then
      grant.temporary.hierarchyLevel ≤ 30 →
        grant.Enters catalogue grant.member.role.hierarchyLevel ∧
          grant.member.role.hierarchyLevel ≤ 30
    else
      ∀ codename, actionCodenames.lookup view.action = some codename →
        (∀ id ∈ grant.temporary.permissions, id ∉ grant.member.temporaryPermissions) →
        grant.temporary.hierarchyLevel ≤ Catalogue.hubFloor (verbOf codename) →
          grant.Holds catalogue codename ∨ grant.Names catalogue codename

def Contained (catalogue : Catalogue) (view : View) : PermissionClass → Prop
  | .hasTenantPermission => True
  | .isTenantAdmin => grant.Reaches catalogue view .isTenantAdmin 10
  | .isTenantAdminOrManager => grant.Reaches catalogue view .isTenantAdminOrManager 20
  | .isAgentOrAbove => grant.Reaches catalogue view .isAgentOrAbove 30
  | .hubEmailPermission => grant.HubReaches catalogue view

/-! ## The classes -/

section Classes

variable {catalogue : Catalogue} {view : View}

theorem names_of_hasEffectivePermission
    (hhas : catalogue.hasEffectivePermission now grant.member codename = true) :
    grant.Names catalogue codename := by
  rw [Catalogue.hasEffectivePermission, effectivePermissions_member, Catalogue.named,
    List.any_eq_true] at hhas
  obtain ⟨id, hmem, hid⟩ := hhas
  have hset := (List.mem_filter.mp hmem).2
  rw [List.contains_iff_mem] at hset
  exact List.any_eq_true.mpr ⟨id, hset, hid⟩

/-- `HasTenantPermission` holds a grant to its curated set. -/
theorem bounded_hasTenantPermission : grant.Bounded catalogue view .hasTenantPermission := by
  intro hpermits
  simp only [Catalogue.permits, Catalogue.hasTenantPermission] at hpermits ⊢
  cases hresource : view.permissionResource with
  | none => exact Or.inl rfl
  | some resource =>
    simp only [hresource] at hpermits
    cases hverb : actionMap.lookup view.action with
    | none => simp [hverb] at hpermits
    | some verb =>
      simp only [hverb, isCurated_member, if_true] at hpermits
      refine Or.inr ⟨resource ++ "." ++ verb, ?_, names_of_hasEffectivePermission grant hpermits⟩
      rw [codenameOf, hresource, hverb]
      · rfl
      · nofun

theorem bounded_iff_reaches {cls : PermissionClass} {bound : ℕ}
    (hcls : ∀ membership : Membership,
      catalogue.permits now view membership cls = decide (membership.level now ≤ bound)) :
    grant.Bounded catalogue view cls ↔ grant.Reaches catalogue view cls bound := by
  rw [Bounded, Reaches, hcls, hcls, level_member, level_permanent, decide_eq_true_eq,
    decide_eq_true_eq]

theorem hubEmailPermission_iff (membership : Membership) :
    catalogue.hubEmailPermission now view membership = true ↔
      catalogue.canAccessInboxHub (membership.level now) membership.user membership.tenant = true ∧
        if agentLevelActions.contains view.action = true then membership.level now ≤ 30
        else ∃ codename, actionCodenames.lookup view.action = some codename ∧
          if membership.effectivePermissions now = [] then
            membership.level now ≤ Catalogue.hubFloor (verbOf codename)
          else catalogue.named (membership.effectivePermissions now) codename = true := by
  unfold Catalogue.hubEmailPermission
  cases catalogue.canAccessInboxHub (membership.level now) membership.user membership.tenant with
  | false => simp
  | true =>
    rw [Bool.not_true, if_neg Bool.false_ne_true, eq_self_iff_true, true_and]
    by_cases hagent : agentLevelActions.contains view.action = true
    · rw [if_pos hagent, if_pos hagent, decide_eq_true_eq]
    · rw [if_neg hagent, if_neg hagent]
      cases actionCodenames.lookup view.action with
      | none => simp
      | some codename =>
        by_cases hnone : membership.effectivePermissions now = []
        · simp [hnone]
        · simp [hnone, Catalogue.hasEffectivePermission]

theorem lookup_agentLevelAction (hagent : agentLevelActions.contains view.action = true) :
    actionCodenames.lookup view.action = none := by
  rw [List.contains_iff_mem] at hagent
  rcases List.mem_cons.mp hagent with haction | hagent
  · rw [haction]
    decide
  · rw [List.mem_singleton.mp hagent]
    decide

theorem holds_iff (hagent : ¬ agentLevelActions.contains view.action = true)
    (hlookup : actionCodenames.lookup view.action = some codename) :
    catalogue.hubEmailPermission now view grant.permanent = true ↔ grant.Holds catalogue codename := by
  rw [hubEmailPermission_iff, if_neg hagent, Holds, Enters, level_permanent,
    effectivePermissions_permanent, hlookup]
  simp only [Option.some.injEq, exists_eq_left']
  exact Iff.rfl

theorem effectivePermissions_eq_nil_iff :
    grant.member.effectivePermissions now = [] ↔
      ∀ id ∈ grant.temporary.permissions, id ∉ grant.member.temporaryPermissions := by
  rw [effectivePermissions_member, List.filter_eq_nil_iff]
  refine forall₂_congr fun id _ => ?_
  rw [List.contains_iff_mem]

/-- The hub keeps a grant within its set exactly if the level of the temporary role opens no more. -/
theorem bounded_iff_hubReaches :
    grant.Bounded catalogue view .hubEmailPermission ↔ grant.HubReaches catalogue view := by
  by_cases hagent : agentLevelActions.contains view.action = true
  · -- no codename: the level of the temporary role is compared with that of the permanent one
    have hnone : ¬ ∃ codename, codenameOf view .hubEmailPermission = some codename ∧
        grant.Names catalogue codename := by
      rintro ⟨codename, hlookup, -⟩
      rw [codenameOf, lookup_agentLevelAction hagent] at hlookup
      cases hlookup
    rw [Bounded, HubReaches, if_pos hagent, Catalogue.permits, Catalogue.permits,
      hubEmailPermission_iff, hubEmailPermission_iff, if_pos hagent, if_pos hagent, level_member,
      level_permanent, and_imp]
    exact forall₂_congr fun _ _ => or_iff_left hnone
  · rw [Bounded, HubReaches, if_neg hagent, Catalogue.permits, Catalogue.permits]
    constructor
    · intro hbounded henters codename hlookup hdisjoint hlevel
      have hpermits := hbounded <| (hubEmailPermission_iff _).mpr
        ⟨(level_member grant).symm ▸ henters, by
          rw [if_neg hagent]
          refine ⟨codename, hlookup, ?_⟩
          rw [if_pos (grant.effectivePermissions_eq_nil_iff.mpr hdisjoint), level_member]
          exact hlevel⟩
      rcases hpermits with hpermanent | ⟨other, hother, hnames⟩
      · exact Or.inl ((grant.holds_iff hagent hlookup).mp hpermanent)
      · rw [codenameOf, hlookup] at hother
        exact Or.inr (Option.some.inj hother ▸ hnames)
    · intro hreaches hmember
      obtain ⟨henters, hrest⟩ := (hubEmailPermission_iff _).mp hmember
      rw [if_neg hagent] at hrest
      obtain ⟨codename, hlookup, hcheck⟩ := hrest
      split at hcheck
      · rename_i hempty
        rw [level_member] at henters hcheck
        rcases hreaches henters codename hlookup (grant.effectivePermissions_eq_nil_iff.mp hempty)
          hcheck with hholds | hnames
        · exact Or.inl ((grant.holds_iff hagent hlookup).mpr hholds)
        · exact Or.inr ⟨codename, hlookup, hnames⟩
      · exact Or.inr ⟨codename, hlookup, grant.names_of_hasEffectivePermission hcheck⟩

end Classes

end Grant

/--
A class lets through during a curated grant only what the permanent role alone or the curated set
stands for exactly if the level of the temporary role opens nothing more where the class goes by it.
-/
theorem bounded_iff_contained {now : ℕ} (catalogue : Catalogue) (grant : Grant now) (view : View)
    (cls : PermissionClass) :
    grant.Bounded catalogue view cls ↔ grant.Contained catalogue view cls := by
  cases cls with
  | hasTenantPermission => exact iff_true_intro grant.bounded_hasTenantPermission
  | isTenantAdmin => exact grant.bounded_iff_reaches fun _ => rfl
  | isTenantAdminOrManager => exact grant.bounded_iff_reaches fun _ => rfl
  | isAgentOrAbove => exact grant.bounded_iff_reaches fun _ => rfl
  | hubEmailPermission => exact grant.bounded_iff_hubReaches

/-- A viewer who was made a manager for an hour, to look at tickets. -/
def lookAtTickets : Grant 0 where
  member := { user := "viewer", tenant := 1
              role := { id := 4, tenant := 1, slug := "viewer", hierarchyLevel := 40 }
              temporaryRole := some { id := 2, tenant := 1, slug := "manager", hierarchyLevel := 20
                                      permissions := [1, 2] }
              temporaryRoleExpiresAt := some 3600000000
              temporaryPermissions := [1] }
  temporary := { id := 2, tenant := 1, slug := "manager", hierarchyLevel := 20
                 permissions := [1, 2] }
  expiresAt := 3600000000
  granted := rfl
  expires := rfl
  active := by decide
  curated := by decide

/-- The viewer passes `IsTenantAdminOrManager`. -/
theorem not_bounded_lookAtTickets :
    ¬ ∀ (catalogue : Catalogue) (now : ℕ) (grant : Grant now) (view : View)
      (cls : PermissionClass), grant.Bounded catalogue view cls := by
  intro hall
  rcases hall {} 0 lookAtTickets { action := "create" } .isTenantAdminOrManager (by decide) with
    hpermanent | ⟨codename, hcodename, -⟩
  · revert hpermanent
    decide
  · cases hcodename

end Kanzan.Accounts

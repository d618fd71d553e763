import Kanzan.Mail.Services
import Kanzan.Support.Lists

/-!
# The tenant that an address belongs to

The address that a tenant asks to be answered at, and the tenant that an address is resolved to.
Slugs and configured addresses are names of one table each, but an address is read as a slug before
it is looked up among the configured ones.
-/

namespace Kanzan.Mail

open Support

/-! ## The table of tenants -/

/-- A character of a `SlugField`. -/
def isSlugChar (c : Char) : Bool := c.isAlphanum || c == '-' || c == '_'

/-- A row of the tenants; `inboundEmail` is null without an address or without settings. -/
structure TenantRow extends Tenant where
  isActive : Bool := true
  inboundEmail : Option String := none
  deriving DecidableEq, Repr

/-- The tenants as the models admit them. -/
structure Tenants where
  rows : List TenantRow
  slug_valid : ∀ row ∈ rows, row.slug.toList.all isSlugChar = true
  slug_unique : (rows.map fun row => row.slug).Nodup
  inboundEmail_unique : ∀ row ∈ rows, ∀ other ∈ rows, row.inboundEmail.isSome →
    row.inboundEmail = other.inboundEmail → row = other

/-- The settings that say where mail goes. -/
structure MailSettings where
  baseDomain : String
  /-- `IMAP_DEFAULT_TENANT_SLUG`; empty when it is not set. -/
  imapDefaultTenantSlug : String := ""

/-! ## Writing and reading addresses -/

def plusAddress (settings : MailSettings) (tenant : TenantRow) : String :=
  "support+" ++ tenant.slug ++ "@" ++ settings.baseDomain

def TenantRow.configured (tenant : TenantRow) : Option String :=
  tenant.inboundEmail.filter fun address => address ≠ ""

/-- `get_reply_to_address`. -/
def getReplyToAddress (settings : MailSettings) (tenant : TenantRow) : String :=
  tenant.configured.getD (plusAddress settings tenant)

/-- The part of an address before its first `@`. -/
def localPart (address : String) : List Char := cutBefore '@' address.toList

namespace Tenants

variable (tenants : Tenants)

/-- `Tenant.objects.filter(slug=slug, is_active=True).first()`. -/
def activeBySlug (slug : String) : Option TenantRow :=
  tenants.rows.find? fun row => row.slug = slug && row.isActive

def byInboundEmail (address : String) : Option TenantRow :=
  (tenants.rows.find? fun row => row.inboundEmail = some address).filter fun row => row.isActive

/-- `resolve_tenant_from_address`. -/
def resolveTenantFromAddress (settings : MailSettings) (recipient : String) : Option TenantRow :=
  let name := localPart recipient
  let plus := if '+' ∈ name then tenants.activeBySlug (String.ofList (cutAfter '+' name)) else none
  let fallback :=
    if settings.imapDefaultTenantSlug = "" then none
    else tenants.activeBySlug settings.imapDefaultTenantSlug
  plus.or ((tenants.activeBySlug (String.ofList name)).or
    ((tenants.byInboundEmail recipient).or fallback))

end Tenants

/-- The slug that an address is read as: what follows the first plus sign before the `@`, or else
all that stands before it. -/
def slugRead (address : String) : String :=
  let name := localPart address
  String.ofList (if '+' ∈ name then cutAfter '+' name else name)

/-- The address configured for a tenant is not read as the slug of another active one. -/
def Unshadowed (tenants : Tenants) (tenant : TenantRow) : Prop :=
  ∀ address, tenant.configured = some address →
    ∀ other ∈ tenants.rows, other.isActive → other.slug = slugRead address → other = tenant

variable {address : String}

/-! ## Replies -/

section Laws

variable {tenants : Tenants} {settings : MailSettings} {tenant : TenantRow}

theorem activeBySlug_eq_some {slug : String} {row : TenantRow} :
    tenants.activeBySlug slug = some row ↔
      row ∈ tenants.rows ∧ row.slug = slug ∧ row.isActive = true :=
  find?_eq_some_of_nodup tenants.slug_unique

theorem byInboundEmail_eq_some (hmem : tenant ∈ tenants.rows) (hactive : tenant.isActive)
    (hemail : tenant.inboundEmail = some address) :
    tenants.byInboundEmail address = some tenant := by
  unfold Tenants.byInboundEmail
  cases hfind : tenants.rows.find? fun row => row.inboundEmail = some address with
  | none =>
    have hnot := List.find?_eq_none.mp hfind tenant hmem
    rw [decide_eq_true_eq] at hnot
    exact absurd hemail hnot
  | some found =>
    have hfound := List.find?_some hfind
    rw [decide_eq_true_eq] at hfound
    have hequal := tenants.inboundEmail_unique tenant hmem found
      (List.mem_of_find?_eq_some hfind) (by rw [hemail]; rfl) (hemail.trans hfound.symm)
    rw [← hequal, Option.filter_some, if_pos hactive]

/-- No slug has a plus sign or an `@` in it. -/
theorem notMem_slug {c : Char} (hc : isSlugChar c = false) (hmem : tenant ∈ tenants.rows) :
    c ∉ tenant.slug.toList := by
  intro hin
  have hall := List.all_eq_true.mp (tenants.slug_valid tenant hmem) c hin
  rw [hc] at hall
  cases hall

theorem resolve_plusAddress (hmem : tenant ∈ tenants.rows) (hactive : tenant.isActive) :
    tenants.resolveTenantFromAddress settings (plusAddress settings tenant) = some tenant := by
  have hsupport : ∀ c ∈ "support".toList, c ≠ '@' ∧ c ≠ '+' := by simp
  have hname : localPart (plusAddress settings tenant) =
      "support".toList ++ '+' :: tenant.slug.toList := by
    have hat : '@' ∉ "support".toList ++ '+' :: tenant.slug.toList := by
      simp only [List.mem_append, List.mem_cons, not_or]
      exact ⟨fun h => (hsupport _ h).1 rfl, by decide, notMem_slug (by decide) hmem⟩
    rw [localPart, show (plusAddress settings tenant).toList =
      ("support".toList ++ '+' :: tenant.slug.toList) ++ '@' :: settings.baseDomain.toList by
        simp [plusAddress, String.toList_append]]
    exact cutBefore_append hat
  have hafter : cutAfter '+' ("support".toList ++ '+' :: tenant.slug.toList) =
      tenant.slug.toList := cutAfter_append fun h => (hsupport _ h).2 rfl
  have hfound : tenants.activeBySlug tenant.slug = some tenant :=
    activeBySlug_eq_some.mpr ⟨hmem, rfl, hactive⟩
  simp only [Tenants.resolveTenantFromAddress, hname, hafter, String.ofList_toList, hfound]
  rw [if_pos (List.mem_append_right _ List.mem_cons_self)]
  rfl

theorem resolve_eq_of_read (address : String) :
    tenants.resolveTenantFromAddress settings address =
      (tenants.activeBySlug (slugRead address)).or ((tenants.byInboundEmail address).or
        (if settings.imapDefaultTenantSlug = "" then none
          else tenants.activeBySlug settings.imapDefaultTenantSlug)) := by
  unfold Tenants.resolveTenantFromAddress slugRead
  by_cases hplus : '+' ∈ localPart address
  · have hwhole : tenants.activeBySlug (String.ofList (localPart address)) = none := by
      cases hfind : tenants.activeBySlug (String.ofList (localPart address)) with
      | none => rfl
      | some row =>
        obtain ⟨hmem, hslug, -⟩ := activeBySlug_eq_some.mp hfind
        have hnot := notMem_slug (c := '+') (by decide) hmem
        rw [hslug, String.toList_ofList] at hnot
        exact absurd hplus hnot
    simp only [if_pos hplus, hwhole, Option.none_or]
  · simp only [if_neg hplus, Option.none_or]

theorem resolve_configured_iff (hmem : tenant ∈ tenants.rows) (hactive : tenant.isActive)
    (hconfigured : tenant.configured = some address) :
    tenants.resolveTenantFromAddress settings address = some tenant ↔
      ∀ other ∈ tenants.rows, other.isActive → other.slug = slugRead address → other = tenant := by
  have hemail : tenant.inboundEmail = some address :=
    (Option.filter_eq_some_iff.mp hconfigured).1
  rw [resolve_eq_of_read, byInboundEmail_eq_some hmem hactive hemail, Option.some_or]
  constructor
  · intro hresolved other hother hotherActive hslug
    rw [activeBySlug_eq_some.mpr ⟨hother, hslug, hotherActive⟩] at hresolved
    exact Option.some.inj hresolved
  · intro hunshadowed
    cases hread : tenants.activeBySlug (slugRead address) with
    | none => rfl
    | some other =>
      obtain ⟨hother, hslug, hotherActive⟩ := activeBySlug_eq_some.mp hread
      rw [hunshadowed other hother hotherActive hslug]
      rfl

theorem resolve_getReplyToAddress_iff (hmem : tenant ∈ tenants.rows) (hactive : tenant.isActive) :
    tenants.resolveTenantFromAddress settings (getReplyToAddress settings tenant) = some tenant ↔
      Unshadowed tenants tenant := by
  unfold getReplyToAddress Unshadowed
  cases hconfigured : tenant.configured with
  | none => simp [resolve_plusAddress hmem hactive]
  | some address => simp [resolve_configured_iff hmem hactive hconfigured]

end Laws

/--
The addresses of all active tenants are resolved to these if and only if none of those configured
is read as the slug of another active tenant.
-/
theorem replies_resolved_iff (tenants : Tenants) (settings : MailSettings) :
    (∀ tenant ∈ tenants.rows, tenant.isActive →
      tenants.resolveTenantFromAddress settings (getReplyToAddress settings tenant) =
        some tenant) ↔
      ∀ tenant ∈ tenants.rows, tenant.isActive → Unshadowed tenants tenant :=
  forall₂_congr fun _ hmem => forall_congr' fun hactive => resolve_getReplyToAddress_iff hmem hactive

/-- The second tenant is answered at an address of its own, the local part of which is the slug of
the first. -/
def supportAndAcme : Tenants where
  rows :=
    [ { pk := 1, slug := "support" },
      { pk := 2, slug := "acme", inboundEmail := some "support@acme.com" } ]
  slug_valid := by decide
  slug_unique := by decide
  inboundEmail_unique := by decide

/-- A reply to the second tenant goes to the first. -/
theorem not_replies_resolved :
    ¬ ∀ (tenants : Tenants) (settings : MailSettings), ∀ tenant ∈ tenants.rows, tenant.isActive →
      tenants.resolveTenantFromAddress settings (getReplyToAddress settings tenant) =
        some tenant := by
  intro hall
  have hacme := hall supportAndAcme { baseDomain := "localhost" }
    { pk := 2, slug := "acme", inboundEmail := some "support@acme.com" } (by decide) rfl
  revert hacme
  decide +kernel

end Kanzan.Mail

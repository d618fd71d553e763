import Kanzan.Mail.Recipients

/-!
# The hosts of tenants

The URLs that are built for a tenant, and the tenant that a middleware finds under the host of a
request.  Texts are read as the lists of their characters.
-/

namespace Kanzan.Tenants.Hosts

open Support

/-! ## The table of tenants -/

/-- A row of the tenants; `domain` is null without a custom domain. -/
structure Tenant where
  slug : String
  domain : Option String := none
  isActive : Bool := true
  deriving DecidableEq, Repr

/-- The tenants as the model admits them. -/
structure Directory where
  rows : List Tenant
  slug_nonempty : ∀ row ∈ rows, row.slug ≠ ""
  slug_valid : ∀ row ∈ rows, row.slug.toList.all Mail.isSlugChar = true
  slug_unique : (rows.map Tenant.slug).Nodup
  domain_unique : ∀ row ∈ rows, ∀ other ∈ rows, row.domain.isSome → row.domain = other.domain →
    row = other

def endsHost (c : Char) : Bool := c == '/' || c == '?' || c == '#'

def isDomainChar (c : Char) : Bool :=
  c.toLower == c && !endsHost c && c != ':' && c != '@'

/-- The settings, and the hosts that Django serves. -/
structure Deployment where
  baseDomain : String
  basePort : String
  baseScheme : String
  debug : Bool
  /-- `request.get_host()` answers with the host of a request, if it is not refused. -/
  accepts : List Char → Bool
  baseDomain_valid : baseDomain.toList.all isDomainChar = true
  basePort_valid : basePort.toList.all Char.isDigit = true
  baseScheme_valid : ':' ∉ baseScheme.toList

/-! ## Writing URLs -/

namespace Deployment

variable (site : Deployment)

/-- `_port_suffix`. -/
def portSuffix : String :=
  if site.basePort = "" ∨ site.basePort = "80" ∨ site.basePort = "443" then ""
  else ":" ++ site.basePort

/-- `TENANT_URL`. -/
def tenantUrl (slug : String) : String :=
  site.baseScheme ++ "://" ++ slug ++ "." ++ site.baseDomain ++ site.portSuffix

def urlScheme : String := if site.debug then "http" else "https"

def siteHost (tenant : Tenant) : String :=
  match tenant.domain with
  | some domain => if domain = "" then subdomain tenant else domain
  | none => subdomain tenant
where
  subdomain (tenant : Tenant) : String :=
    let host := tenant.slug ++ "." ++ site.baseDomain
    if site.debug && site.basePort ≠ "" then host ++ ":" ++ site.basePort else host

/-- `get_ticket_url`. -/
def getTicketUrl (tenant : Tenant) (number : ℕ) : String :=
  site.urlScheme ++ "://" ++ site.siteHost tenant ++ "/tickets/" ++ toString number ++ "/"

/-- `_absolute_url`. -/
def absoluteUrl (tenant : Tenant) (path : String) : String :=
  if path = "" then ""
  else if "http://".toList.isPrefixOf path.toList || "https://".toList.isPrefixOf path.toList then
    path
  else
    let rooted := if "/".toList.isPrefixOf path.toList then path else "/" ++ path
    site.urlScheme ++ "://" ++ site.siteHost tenant ++ rooted

end Deployment

/-! ## Reading hosts -/

/-- The host that a client takes from what follows the scheme of a URL: without the user. -/
def authority (text : List Char) : List Char :=
  ((text.takeWhile fun c => !endsHost c).reverse.takeWhile (· ≠ '@')).reverse

def hostOf (url : String) : List Char := authority ((cutAfter ':' url.toList).drop 2)

/-- `str.lower()`, for the characters of hosts. -/
def lower (text : List Char) : List Char := text.map Char.toLower

def localhost : List Char := ['l', 'o', 'c', 'a', 'l', 'h', 'o', 's', 't']

/-- `host.split(":")[0].lower()`. -/
def hostBare (host : List Char) : List Char := lower (cutBefore ':' host)

namespace Deployment

variable (site : Deployment)

def mainHosts : List (List Char) := [localhost, "127.0.0.1".toList, site.baseDomain.toList]

/-- `_extract_slug`. -/
def extractSlug (host : List Char) : Option (List Char) :=
  if hostBare host ∈ site.mainHosts then none
  else
    match ('.' :: localhost).isSuffixOf? (hostBare host) with
    | some slug => if slug = [] then none else some slug
    | none =>
      match ('.' :: site.baseDomain.toList).isSuffixOf? (hostBare host) with
      | some slug => if slug ≠ [] ∧ '.' ∉ slug then some slug else none
      | none => none

end Deployment

namespace Directory

variable (tenants : Directory)

/-- `Tenant.objects.filter(slug=slug, is_active=True).first()`. -/
def activeBySlug (slug : List Char) : Option Tenant :=
  tenants.rows.find? fun row => row.slug.toList = slug && row.isActive

/-- `Tenant.objects.filter(domain=domain, is_active=True).first()`. -/
def activeByDomain (domain : List Char) : Option Tenant :=
  tenants.rows.find? fun row => row.domain.map String.toList = some domain && row.isActive

def lookup (site : Deployment) (host : List Char) : Option Tenant :=
  match site.extractSlug host with
  | some slug => tenants.activeBySlug slug
  | none => if hostBare host ∈ site.mainHosts then none else tenants.activeByDomain (hostBare host)

end Directory

/-- `EXEMPT_PATH_PREFIXES`. -/
def exemptPathPrefixes : List String :=
  ["/healthz", "/readyz", "/static/", "/media/", "/api/v1/accounts/auth/", "/api/v1/billing/plans/",
    "/api/v1/billing/webhook/", "/api/v1/tickets/csat/", "/api/docs/", "/api/schema/", "/accounts/",
    "/inbound/email/", "/login/", "/register/", "/logout/", "/verify-email/", "/verify-email-sent/",
    "/setup-company/", "/workspaces/"]

/-- `_is_exempt`. -/
def isExempt (path : String) : Bool :=
  exemptPathPrefixes.any fun start => start.toList.isPrefixOf path.toList

inductive Outcome where
  /-- The view is called, with `request.tenant`. -/
  | served (tenant : Option Tenant)
  | tenantNotFound
  /-- `DisallowedHost`. -/
  | badRequest
  deriving DecidableEq, Repr

/-- `TenantMiddleware.__call__`. -/
def tenantMiddleware (site : Deployment) (tenants : Directory) (path : String) (host : List Char) :
    Outcome :=
  if isExempt path then .served none
  else if !site.accepts host then .badRequest
  else if "/admin/".toList.isPrefixOf path.toList then .served (tenants.lookup site host)
  else if site.extractSlug host = none ∧ hostBare host ∈ site.mainHosts then .served none
  else
    match tenants.lookup site host with
    | some tenant => .served (some tenant)
    | none => .tenantNotFound

/-- `WebSocketTenantMiddleware.__call__`: `scope["tenant"]`. -/
def webSocketTenant (site : Deployment) (tenants : Directory) (host : List Char) : Option Tenant :=
  tenants.lookup site host

def Resolves (site : Deployment) (tenants : Directory) (host : List Char) (tenant : Tenant) :
    Prop :=
  (∃ path, tenantMiddleware site tenants path host = .served (some tenant)) ∨
    webSocketTenant site tenants host = some tenant

/-- A URL that is built for a tenant. -/
inductive Built (site : Deployment) (tenant : Tenant) : String → Prop where
  | tenantUrl : Built site tenant (site.tenantUrl tenant.slug)
  | getTicketUrl (number : ℕ) : Built site tenant (site.getTicketUrl tenant number)
  | absoluteUrl (path : String) (hpath : path ≠ "")
      (hrelative : ("http://".toList.isPrefixOf path.toList ||
        "https://".toList.isPrefixOf path.toList) = false) :
      Built site tenant (site.absoluteUrl tenant path)

/-! ## Hosts that lead back -/

namespace Deployment

variable (site : Deployment)

def ownHost (tenant : Tenant) : List Char := tenant.slug.toList ++ '.' :: site.baseDomain.toList

def IsSubdomain (host : List Char) : Prop :=
  (∃ label ≠ [], host = label ++ '.' :: localhost) ∨
    ∃ label ≠ [], '.' ∉ label ∧ host = label ++ '.' :: site.baseDomain.toList

/-- A custom domain by which a tenant is found: its own subdomain in whatever spelling, or a
lowercase domain that is neither the main site nor any subdomain. -/
def Leads (tenant : Tenant) (domain : List Char) : Prop :=
  hostBare (authority domain) = tenant.slug.toList ++ '.' :: localhost ∨
    hostBare (authority domain) = site.ownHost tenant ∨
      domain.all isDomainChar = true ∧ domain ∉ site.mainHosts ∧ ¬ site.IsSubdomain domain

/-- What it takes that all URLs of a tenant lead back to it. -/
structure Addressable (tenant : Tenant) : Prop where
  slug : lower tenant.slug.toList = tenant.slug.toList
  base : ¬ '.' :: localhost <:+ site.baseDomain.toList
  main : site.ownHost tenant ≠ "127.0.0.1".toList
  accepted : site.accepts (site.ownHost tenant ++ site.portSuffix.toList) = true ∧
    site.accepts (authority (site.siteHost tenant).toList) = true
  domain : ∀ domain, tenant.domain = some domain → domain ≠ "" → site.Leads tenant domain.toList

end Deployment

variable {c : Char} {path : String}

section Laws

variable {site : Deployment} {tenants : Directory} {tenant : Tenant}
variable {text host label rest : List Char}

theorem notMem_localhost : '.' ∉ localhost := by
  simp [localhost]

theorem lower_eq_self (htext : text.all isDomainChar = true) : lower text = text := by
  refine (List.map_congr_left fun c hc => ?_).trans text.map_id
  have hvalid := List.all_eq_true.mp htext c hc
  simp only [isDomainChar, Bool.and_eq_true, beq_iff_eq] at hvalid
  exact hvalid.1.1.1

theorem Directory.notMem_slug (hc : Mail.isSlugChar c = false) (hmem : tenant ∈ tenants.rows) :
    c ∉ tenant.slug.toList := by
  intro hin
  have hall := List.all_eq_true.mp (tenants.slug_valid tenant hmem) c hin
  rw [hc] at hall
  cases hall

theorem Directory.slug_ne_nil (hmem : tenant ∈ tenants.rows) : tenant.slug.toList ≠ [] :=
  fun h => tenants.slug_nonempty tenant hmem (String.toList_injective h)

theorem activeBySlug_eq_some :
    tenants.activeBySlug label = some tenant ↔
      tenant ∈ tenants.rows ∧ tenant.slug.toList = label ∧ tenant.isActive = true := by
  have hnodup : (tenants.rows.map fun row => row.slug.toList).Nodup := by
    have hslugs := tenants.slug_unique.map fun _ _ => String.toList_injective
    rwa [List.map_map] at hslugs
  exact find?_eq_some_of_nodup hnodup

theorem of_activeByDomain (hfound : tenants.activeByDomain host = some tenant) :
    tenant.domain.map String.toList = some host := by
  have hwanted := List.find?_some hfound
  rw [Bool.and_eq_true, decide_eq_true_eq] at hwanted
  exact hwanted.1

theorem activeByDomain_eq_some (hmem : tenant ∈ tenants.rows) (hactive : tenant.isActive = true)
    (hdomain : tenant.domain.map String.toList = some host) :
    tenants.activeByDomain host = some tenant := by
  cases hfind : tenants.activeByDomain host with
  | none =>
    have hnot := List.find?_eq_none.mp hfind tenant hmem
    simp [hdomain, hactive] at hnot
  | some found =>
    have hfound := (of_activeByDomain hfind).trans hdomain.symm
    obtain ⟨domain, hsome, -⟩ := Option.map_eq_some_iff.mp hdomain
    have hsame : tenant.domain = found.domain :=
      (Option.map_injective fun _ _ => String.toList_injective) hfound.symm
    rw [tenants.domain_unique tenant hmem found (List.mem_of_find?_eq_some hfind)
      (by rw [hsome]; rfl) hsame]

theorem extractSlug_eq_some :
    site.extractSlug host = some label ↔ hostBare host ∉ site.mainHosts ∧ label ≠ [] ∧
      (hostBare host = label ++ '.' :: localhost ∨
        ¬ '.' :: localhost <:+ hostBare host ∧ '.' ∉ label ∧
          hostBare host = label ++ '.' :: site.baseDomain.toList) := by
  unfold Deployment.extractSlug
  by_cases hmain : hostBare host ∈ site.mainHosts
  · rw [if_pos hmain]
    exact ⟨fun h => (by cases h), fun h => absurd hmain h.1⟩
  rw [if_neg hmain]
  cases hlocal : ('.' :: localhost).isSuffixOf? (hostBare host) with
  | some slug =>
    have hhost := List.isSuffixOf?_eq_some_iff_append_eq.mp hlocal
    have hsuffix : '.' :: localhost <:+ hostBare host := ⟨slug, hhost⟩
    dsimp only
    constructor
    · intro hslug
      split at hslug
      · cases hslug
      · rename_i hne
        obtain rfl := Option.some.inj hslug
        exact ⟨hmain, hne, .inl hhost.symm⟩
    · rintro ⟨-, hne, hread | ⟨hnot, -⟩⟩
      · rw [hread] at hhost
        rw [List.append_cancel_right hhost, if_neg hne]
      · exact absurd hsuffix hnot
  | none =>
    have hnot : ¬ '.' :: localhost <:+ hostBare host := by
      rintro ⟨slug, hslug⟩
      rw [List.isSuffixOf?_eq_some_iff_append_eq.mpr hslug] at hlocal
      cases hlocal
    dsimp only
    cases hbase : ('.' :: site.baseDomain.toList).isSuffixOf? (hostBare host) with
    | none =>
      constructor
      · intro h
        cases h
      · rintro ⟨-, hne, hread | ⟨-, -, hread⟩⟩
        · exact absurd ⟨label, hread.symm⟩ hnot
        · rw [List.isSuffixOf?_eq_some_iff_append_eq.mpr hread.symm] at hbase
          cases hbase
    | some slug =>
      have hhost := List.isSuffixOf?_eq_some_iff_append_eq.mp hbase
      dsimp only
      constructor
      · intro hslug
        split at hslug
        · rename_i hvalid
          obtain rfl := Option.some.inj hslug
          exact ⟨hmain, hvalid.1, .inr ⟨hnot, hvalid.2, hhost.symm⟩⟩
        · cases hslug
      · rintro ⟨-, hne, hread | ⟨-, hdot, hread⟩⟩
        · exact absurd ⟨label, hread.symm⟩ hnot
        · rw [hread] at hhost
          rw [List.append_cancel_right hhost, if_pos ⟨hne, hdot⟩]

theorem isSubdomain_of_extractSlug (hread : site.extractSlug host = some label) :
    site.IsSubdomain (hostBare host) := by
  obtain ⟨-, hne, hlocal | ⟨-, hdot, hbase⟩⟩ := extractSlug_eq_some.mp hread
  · exact .inl ⟨label, hne, hlocal⟩
  · exact .inr ⟨label, hne, hdot, hbase⟩

theorem extractSlug_of_isSubdomain (hmain : hostBare host ∉ site.mainHosts)
    (subdomain : site.IsSubdomain (hostBare host)) :
    ∃ label, site.extractSlug host = some label := by
  rcases subdomain with ⟨label, hne, hlocal⟩ | ⟨label, hne, hdot, hbase⟩
  · exact ⟨label, extractSlug_eq_some.mpr ⟨hmain, hne, .inl hlocal⟩⟩
  · by_cases hsuffix : '.' :: localhost <:+ hostBare host
    · obtain ⟨other, hother⟩ := hsuffix
      refine ⟨other, extractSlug_eq_some.mpr ⟨hmain, ?_, .inl hother.symm⟩⟩
      rintro rfl
      rw [← hother] at hbase
      cases label with
      | nil => exact hne rfl
      | cons c label =>
        obtain ⟨hc, -⟩ := List.cons.inj hbase
        exact hdot (hc ▸ List.mem_cons_self)
    · exact ⟨label, extractSlug_eq_some.mpr ⟨hmain, hne, .inr ⟨hsuffix, hdot, hbase⟩⟩⟩

/-! ### What a client takes from a URL -/

theorem takeWhile_append_of_neg {p : Char → Bool} (hc : p c = false) (left right : List Char) :
    (left ++ c :: right).takeWhile p = left.takeWhile p := by
  induction left with
  | nil => simp [hc]
  | cons d left ih =>
    rw [List.cons_append, List.takeWhile_cons, List.takeWhile_cons, ih]

theorem authority_append (text rest : List Char) :
    authority (text ++ '/' :: rest) = authority text := by
  rw [authority, authority, takeWhile_append_of_neg rfl]

theorem authority_eq_self (htext : ∀ c ∈ text, endsHost c = false ∧ c ≠ '@') :
    authority text = text := by
  have hends : (text.takeWhile fun c => !endsHost c) = text :=
    List.takeWhile_eq_self_iff.mpr fun c hc => by rw [(htext c hc).1]; rfl
  have huser : text.reverse.takeWhile (· ≠ '@') = text.reverse :=
    List.takeWhile_eq_self_iff.mpr fun c hc => by
      simpa using (htext c (List.mem_reverse.mp hc)).2
  rw [authority, hends, huser, List.reverse_reverse]

theorem of_mem_authority (hc : c ∈ authority text) : endsHost c = false ∧ c ≠ '@' := by
  have hbefore := List.mem_reverse.mp hc
  have huser := List.mem_takeWhile_imp hbefore
  have hends := List.mem_takeWhile_imp
    (List.mem_reverse.mp ((List.takeWhile_sublist _).subset hbefore))
  exact ⟨by simpa using hends, by simpa using huser⟩

theorem isLower_iff (c : Char) : c.isLower = true ↔ 'a'.val ≤ c.val ∧ c.val ≤ 'z'.val :=
  Bool.and_eq_true_iff.trans (and_congr decide_eq_true_iff decide_eq_true_iff)

theorem eq_of_toLower {d : Char} (hlower : c.toLower = d) (hd : d.isLower = false) : c = d := by
  unfold Char.toLower at hlower
  split at hlower
  · rename_i hupper
    subst hlower
    have hfirst := UInt32.le_iff_toNat_le.mp hupper.1
    have hlast := UInt32.le_iff_toNat_le.mp hupper.2
    have hA : 'A'.val.toNat = 65 := rfl
    have hZ : 'Z'.val.toNat = 90 := rfl
    have hshift : ('a'.val - 'A'.val).toNat = 32 := rfl
    have hsum : (c.val + ('a'.val - 'A'.val)).toNat = c.val.toNat + 32 := by
      rw [UInt32.toNat_add, hshift]
      exact Nat.mod_eq_of_lt (by omega)
    have ha : 'a'.val.toNat = 97 := rfl
    have hz : 'z'.val.toNat = 122 := rfl
    rw [← Bool.not_eq_true, isLower_iff, UInt32.le_iff_toNat_le, UInt32.le_iff_toNat_le,
      hsum] at hd
    omega
  · exact hlower

theorem toLower_of_isLower (hlower : c.isLower = true) : c.toLower = c := by
  rw [isLower_iff] at hlower
  have hfirst := UInt32.le_iff_toNat_le.mp hlower.1
  have ha : 'a'.val.toNat = 97 := rfl
  have hZ : 'Z'.val.toNat = 90 := rfl
  refine dif_neg fun hupper => ?_
  have hlast := UInt32.le_iff_toNat_le.mp hupper.2
  omega

theorem toLower_toLower (c : Char) : c.toLower.toLower = c.toLower := by
  cases hlower : c.toLower.isLower with
  | true => exact toLower_of_isLower hlower
  | false =>
    have hself := eq_of_toLower rfl hlower
    rw [← hself, ← hself]

theorem isDomainChar_toLower (hends : endsHost c = false) (hcolon : c ≠ ':') (huser : c ≠ '@') :
    isDomainChar c.toLower = true := by
  have hne : ∀ d : Char, d.isLower = false → c ≠ d → c.toLower ≠ d :=
    fun d hd hc h => hc (eq_of_toLower h hd)
  simp only [endsHost, Bool.or_eq_false_iff, beq_eq_false_iff_ne] at hends
  simp [isDomainChar, endsHost, toLower_toLower, hne '/' rfl hends.1.1, hne '?' rfl hends.1.2,
    hne '#' rfl hends.2, hne ':' rfl hcolon, hne '@' rfl huser]

theorem all_hostBare_authority (text : List Char) :
    (hostBare (authority text)).all isDomainChar = true := by
  refine List.all_eq_true.mpr fun c hc => ?_
  obtain ⟨d, hd, rfl⟩ := List.mem_map.mp hc
  obtain ⟨hends, huser⟩ := of_mem_authority ((List.takeWhile_sublist _).subset hd)
  refine isDomainChar_toLower hends ?_ huser
  rintro rfl
  exact notMem_cutBefore ':' _ hd

theorem authority_of_all (htext : text.all isDomainChar = true) : authority text = text := by
  refine authority_eq_self fun c hc => ?_
  have hvalid := List.all_eq_true.mp htext c hc
  simp only [isDomainChar, Bool.and_eq_true, bne_iff_ne, Bool.not_eq_true'] at hvalid
  exact ⟨hvalid.1.1.2, hvalid.2⟩

theorem notMem_colon (htext : text.all isDomainChar = true) : ':' ∉ text := by
  intro hc
  have hvalid := List.all_eq_true.mp htext ':' hc
  simp [isDomainChar] at hvalid

theorem hostBare_of_all (htext : text.all isDomainChar = true) : hostBare text = text := by
  rw [hostBare, cutBefore_of_notMem (notMem_colon htext), lower_eq_self htext]

theorem hostOf_url {scheme : String} (hscheme : ':' ∉ scheme.toList) (rest : String) :
    hostOf (scheme ++ "://" ++ rest) = authority rest.toList := by
  have htext : (scheme ++ "://" ++ rest).toList =
      scheme.toList ++ ':' :: '/' :: '/' :: rest.toList := by
    simp [String.toList_append]
  rw [hostOf, htext, cutAfter_append hscheme]
  rfl

/-! ### The subdomain of a tenant -/

theorem slugChar_not_ends (hc : Mail.isSlugChar c = true) :
    endsHost c = false ∧ c ≠ '@' ∧ c ≠ ':' ∧ c ≠ '.' := by
  refine ⟨Bool.eq_false_iff.mpr fun hends => ?_, ?_, ?_, ?_⟩
  · simp only [endsHost, Bool.or_eq_true, beq_iff_eq] at hends
    rcases hends with (rfl | rfl) | rfl <;> cases hc
  all_goals
    rintro rfl
    cases hc

theorem hostBare_ownHost (hmem : tenant ∈ tenants.rows)
    (hrest : rest = [] ∨ ∃ port, rest = ':' :: port) :
    hostBare (site.ownHost tenant ++ rest) =
      lower tenant.slug.toList ++ '.' :: site.baseDomain.toList := by
  have hcolon : ':' ∉ site.ownHost tenant := by
    rw [Deployment.ownHost, List.mem_append, List.mem_cons, not_or, not_or]
    exact ⟨tenants.notMem_slug rfl hmem, by simp, notMem_colon site.baseDomain_valid⟩
  have hcut : cutBefore ':' (site.ownHost tenant ++ rest) = site.ownHost tenant := by
    rcases hrest with rfl | ⟨port, rfl⟩
    · rw [List.append_nil]
      exact cutBefore_of_notMem hcolon
    · exact cutBefore_append hcolon
  have hbase := lower_eq_self site.baseDomain_valid
  rw [hostBare, hcut, Deployment.ownHost, lower, List.map_append, List.map_cons]
  exact congrArg (lower tenant.slug.toList ++ '.' :: ·) hbase

theorem dot_notMem_lower (hmem : tenant ∈ tenants.rows) : '.' ∉ lower tenant.slug.toList := by
  intro hc
  obtain ⟨c, hc, hdot⟩ := List.mem_map.mp hc
  obtain rfl := eq_of_toLower hdot rfl
  exact tenants.notMem_slug rfl hmem hc

theorem extractSlug_of_ownHost (hmem : tenant ∈ tenants.rows)
    (hbase : ¬ '.' :: localhost <:+ site.baseDomain.toList)
    (hmain : site.ownHost tenant ≠ "127.0.0.1".toList)
    (hhost : hostBare host = site.ownHost tenant) :
    site.extractSlug host = some tenant.slug.toList := by
  have hdot : '.' ∈ site.ownHost tenant := List.mem_append_right _ List.mem_cons_self
  refine extractSlug_eq_some.mpr ⟨?_, tenants.slug_ne_nil hmem, ?_⟩
  · rw [hhost, Deployment.mainHosts, List.mem_cons, List.mem_cons, List.mem_singleton]
    rintro (h | h | h)
    · exact notMem_localhost (h ▸ hdot)
    · exact hmain h
    · have hlength := congrArg List.length h
      rw [Deployment.ownHost, List.length_append, List.length_cons] at hlength
      omega
  · by_cases hsuffix : '.' :: localhost <:+ site.ownHost tenant
    · -- the last dot of both stands before the base domain
      left
      have hlocal : '.' :: localhost = '.' :: site.baseDomain.toList := by
        rcases List.suffix_or_suffix_of_suffix hsuffix (List.suffix_append _ _) with h | h
        · exact (List.suffix_cons_iff.mp h).resolve_right hbase
        · rcases List.suffix_cons_iff.mp h with h | h
          · exact h.symm
          · exact absurd (h.subset List.mem_cons_self) notMem_localhost
      rw [hhost, hlocal]
      rfl
    · right
      rw [hhost]
      exact ⟨hsuffix, tenants.notMem_slug rfl hmem, rfl⟩

/-- The subdomain of a tenant, with or without a port, leads back to it if and only if its slug is
in lower case and the base domain is no subdomain of `localhost`. -/
theorem lookup_ownHost_iff (hmem : tenant ∈ tenants.rows) (hactive : tenant.isActive = true)
    (hrest : rest = [] ∨ ∃ port, rest = ':' :: port) :
    tenants.lookup site (site.ownHost tenant ++ rest) = some tenant ↔
      lower tenant.slug.toList = tenant.slug.toList ∧
        ¬ '.' :: localhost <:+ site.baseDomain.toList ∧
          site.ownHost tenant ≠ "127.0.0.1".toList := by
  have hhost : hostBare (site.ownHost tenant ++ rest) = _ := hostBare_ownHost hmem hrest
  have hlength : (lower tenant.slug.toList).length = tenant.slug.toList.length := List.length_map _
  constructor
  · intro hlookup
    unfold Directory.lookup at hlookup
    cases hread : site.extractSlug (site.ownHost tenant ++ rest) with
    | some label =>
      rw [hread] at hlookup
      obtain ⟨-, rfl, -⟩ := activeBySlug_eq_some.mp hlookup
      obtain ⟨hmain, -, hlocal | ⟨hlocal, -, hbase⟩⟩ := extractSlug_eq_some.mp hread
      · rw [hhost] at hlocal hmain
        obtain ⟨hslug, hrest⟩ := List.append_inj hlocal hlength
        obtain ⟨-, hbase⟩ := List.cons.inj hrest
        refine ⟨hslug, fun hsuffix => ?_, fun h => hmain ?_⟩
        · have hle := hsuffix.length_le
          rw [hbase, List.length_cons] at hle
          omega
        · rw [hslug]
          exact List.mem_cons_of_mem _ (List.mem_cons.mpr (.inl h))
      · rw [hhost] at hlocal hbase hmain
        obtain ⟨hslug, -⟩ := List.append_inj hbase hlength
        refine ⟨hslug, fun hsuffix => hlocal ?_, fun h => hmain ?_⟩
        · exact List.suffix_append_of_suffix (List.suffix_cons_iff.mpr (.inr hsuffix))
        · rw [hslug]
          exact List.mem_cons_of_mem _ (List.mem_cons.mpr (.inl h))
    | none =>
      rw [hread] at hlookup
      dsimp only at hlookup
      split at hlookup
      · cases hlookup
      · rename_i hmain
        have hsubdomain : site.IsSubdomain (hostBare (site.ownHost tenant ++ rest)) := by
          refine .inr ⟨lower tenant.slug.toList, fun h => ?_, dot_notMem_lower hmem, hhost⟩
          exact tenants.slug_ne_nil hmem (List.map_eq_nil_iff.mp h)
        obtain ⟨label, hlabel⟩ := extractSlug_of_isSubdomain hmain hsubdomain
        rw [hread] at hlabel
        cases hlabel
  · rintro ⟨hslug, hbase, hmain⟩
    rw [hslug] at hhost
    rw [Directory.lookup, extractSlug_of_ownHost hmem hbase hmain hhost]
    exact activeBySlug_eq_some.mpr ⟨hmem, rfl, hactive⟩

/-! ### The custom domain of a tenant -/

theorem lookup_domain_iff (hmem : tenant ∈ tenants.rows) (hactive : tenant.isActive = true)
    (hbase : ¬ '.' :: localhost <:+ site.baseDomain.toList)
    (hmain : site.ownHost tenant ≠ "127.0.0.1".toList) {domain : String}
    (hdomain : tenant.domain = some domain) :
    tenants.lookup site (authority domain.toList) = some tenant ↔
      site.Leads tenant domain.toList := by
  unfold Directory.lookup
  constructor
  · intro hlookup
    cases hread : site.extractSlug (authority domain.toList) with
    | some label =>
      rw [hread] at hlookup
      obtain ⟨-, rfl, -⟩ := activeBySlug_eq_some.mp hlookup
      obtain ⟨-, -, hlocal | ⟨-, -, hown⟩⟩ := extractSlug_eq_some.mp hread
      · exact .inl hlocal
      · exact .inr (.inl hown)
    | none =>
      rw [hread] at hlookup
      dsimp only at hlookup
      split at hlookup
      · cases hlookup
      · rename_i hother
        have hfound := of_activeByDomain hlookup
        rw [hdomain, Option.map_some, Option.some.injEq] at hfound
        rw [← hfound] at hother
        refine .inr (.inr ⟨?_, hother, fun hsubdomain => ?_⟩)
        · rw [hfound]
          exact all_hostBare_authority _
        · rw [hfound] at hsubdomain hother
          obtain ⟨label, hlabel⟩ := extractSlug_of_isSubdomain hother hsubdomain
          rw [hread] at hlabel
          cases hlabel
  · rintro (hlocal | hown | ⟨hall, hother, hnot⟩)
    · have hread : site.extractSlug (authority domain.toList) = some tenant.slug.toList := by
        refine extractSlug_eq_some.mpr ⟨?_, tenants.slug_ne_nil hmem, .inl hlocal⟩
        have hdot : '.' ∈ tenant.slug.toList ++ '.' :: localhost :=
          List.mem_append_right _ List.mem_cons_self
        rw [hlocal, Deployment.mainHosts, List.mem_cons, List.mem_cons, List.mem_singleton]
        rintro (h | h | h)
        · exact notMem_localhost (h ▸ hdot)
        · have hlength := congrArg List.length h
          simp [localhost] at hlength
        · exact hbase ⟨_, h⟩
      rw [hread]
      exact activeBySlug_eq_some.mpr ⟨hmem, rfl, hactive⟩
    · rw [extractSlug_of_ownHost hmem hbase hmain hown]
      exact activeBySlug_eq_some.mpr ⟨hmem, rfl, hactive⟩
    · have hhost : hostBare (authority domain.toList) = domain.toList := by
        rw [authority_of_all hall, hostBare_of_all hall]
      have hread : site.extractSlug (authority domain.toList) = none := by
        cases hread : site.extractSlug (authority domain.toList) with
        | none => rfl
        | some label =>
          have hsubdomain := isSubdomain_of_extractSlug hread
          rw [hhost] at hsubdomain
          exact absurd hsubdomain hnot
      rw [hread, hhost]
      dsimp only
      rw [if_neg hother]
      exact activeByDomain_eq_some hmem hactive (by rw [hdomain]; rfl)

/-! ### URLs -/

theorem portSuffix_cases (site : Deployment) :
    site.portSuffix.toList = [] ∨ site.portSuffix.toList = ':' :: site.basePort.toList := by
  unfold Deployment.portSuffix
  split
  · exact .inl rfl
  · exact .inr (by simp [String.toList_append])

theorem authority_ownHost (hmem : tenant ∈ tenants.rows)
    (hrest : rest = [] ∨ rest = ':' :: site.basePort.toList) :
    authority (site.ownHost tenant ++ rest) = site.ownHost tenant ++ rest := by
  refine authority_eq_self fun c hc => ?_
  rw [Deployment.ownHost, List.append_assoc, List.cons_append, List.mem_append, List.mem_cons,
    List.mem_append] at hc
  have hport : c ∈ ':' :: site.basePort.toList → endsHost c = false ∧ c ≠ '@' := by
    intro hc
    rcases List.mem_cons.mp hc with rfl | hc
    · exact ⟨rfl, by simp⟩
    · have hdigit := List.all_eq_true.mp site.basePort_valid c hc
      refine ⟨Bool.eq_false_iff.mpr fun hends => ?_, ?_⟩
      · simp only [endsHost, Bool.or_eq_true, beq_iff_eq] at hends
        rcases hends with (rfl | rfl) | rfl <;> cases hdigit
      · rintro rfl
        cases hdigit
  rcases hc with hc | rfl | hc | hc
  · have hslug := slugChar_not_ends (List.all_eq_true.mp (tenants.slug_valid tenant hmem) c hc)
    exact ⟨hslug.1, hslug.2.1⟩
  · exact ⟨rfl, by simp⟩
  · have hvalid := List.all_eq_true.mp site.baseDomain_valid c hc
    simp only [isDomainChar, Bool.and_eq_true, bne_iff_ne, Bool.not_eq_true'] at hvalid
    exact ⟨hvalid.1.1.2, hvalid.2⟩
  · rcases hrest with rfl | rfl
    · cases hc
    · exact hport hc

theorem hostOf_tenantUrl (hmem : tenant ∈ tenants.rows) :
    hostOf (site.tenantUrl tenant.slug) = site.ownHost tenant ++ site.portSuffix.toList := by
  have hurl : site.tenantUrl tenant.slug = site.baseScheme ++ "://" ++
      (tenant.slug ++ "." ++ site.baseDomain ++ site.portSuffix) := by
    simp [Deployment.tenantUrl, String.append_assoc]
  have htext : (tenant.slug ++ "." ++ site.baseDomain ++ site.portSuffix).toList =
      site.ownHost tenant ++ site.portSuffix.toList := by
    simp [Deployment.ownHost, String.toList_append]
  rw [hurl, hostOf_url site.baseScheme_valid, htext, authority_ownHost hmem (portSuffix_cases site)]

theorem urlScheme_valid (site : Deployment) : ':' ∉ site.urlScheme.toList := by
  unfold Deployment.urlScheme
  split <;> simp

theorem hostOf_siteHost {rest : String} (hrest : ∃ path, rest.toList = '/' :: path) :
    hostOf (site.urlScheme ++ "://" ++ site.siteHost tenant ++ rest) =
      authority (site.siteHost tenant).toList := by
  obtain ⟨path, hpath⟩ := hrest
  rw [String.append_assoc, hostOf_url (urlScheme_valid site), String.toList_append, hpath,
    authority_append]

theorem hostOf_getTicketUrl (number : ℕ) :
    hostOf (site.getTicketUrl tenant number) = authority (site.siteHost tenant).toList := by
  rw [Deployment.getTicketUrl, String.append_assoc, String.append_assoc]
  refine hostOf_siteHost ⟨"tickets/".toList ++ (toString number ++ "/").toList, ?_⟩
  simp [String.toList_append]

theorem hostOf_absoluteUrl (hpath : path ≠ "")
    (hrelative : ("http://".toList.isPrefixOf path.toList ||
      "https://".toList.isPrefixOf path.toList) = false) :
    hostOf (site.absoluteUrl tenant path) = authority (site.siteHost tenant).toList := by
  unfold Deployment.absoluteUrl
  rw [if_neg hpath, if_neg (by rw [hrelative]; simp)]
  refine hostOf_siteHost ?_
  by_cases hrooted : "/".toList.isPrefixOf path.toList = true
  · rw [if_pos hrooted]
    obtain ⟨rest, hrest⟩ := List.isPrefixOf_iff_prefix.mp hrooted
    exact ⟨rest, hrest.symm⟩
  · rw [if_neg hrooted]
    exact ⟨path.toList, by simp [String.toList_append]⟩

theorem siteHost_cases (site : Deployment) (tenant : Tenant) :
    (∃ domain, tenant.domain = some domain ∧ domain ≠ "" ∧ site.siteHost tenant = domain) ∨
      (∀ domain, tenant.domain = some domain → domain = "") ∧
        ∃ rest, (rest = [] ∨ rest = ':' :: site.basePort.toList) ∧
          (site.siteHost tenant).toList = site.ownHost tenant ++ rest := by
  have hsubdomain : ∃ rest, (rest = [] ∨ rest = ':' :: site.basePort.toList) ∧
      (Deployment.siteHost.subdomain site tenant).toList = site.ownHost tenant ++ rest := by
    unfold Deployment.siteHost.subdomain
    dsimp only
    split
    · exact ⟨_, .inr rfl, by simp [Deployment.ownHost, String.toList_append]⟩
    · exact ⟨[], .inl rfl, by simp [Deployment.ownHost, String.toList_append]⟩
  unfold Deployment.siteHost
  cases hdomain : tenant.domain with
  | none => exact .inr ⟨fun _ h => (by cases h), hsubdomain⟩
  | some domain =>
    by_cases hempty : domain = ""
    · subst hempty
      exact .inr ⟨fun _ h => (Option.some.inj h).symm, hsubdomain⟩
    · exact .inl ⟨domain, rfl, hempty, if_neg hempty⟩

/-! ### Requests -/

theorem isExempt_root : isExempt "/" = false := by
  decide +kernel

theorem tenantMiddleware_eq_served (hpath : isExempt path = false) :
    tenantMiddleware site tenants path host = .served (some tenant) ↔
      site.accepts host = true ∧ tenants.lookup site host = some tenant := by
  unfold tenantMiddleware
  rw [if_neg (by rw [hpath]; simp)]
  cases haccepts : site.accepts host with
  | false => simp
  | true =>
    simp only [Bool.not_true, Bool.false_eq_true, if_false, true_and]
    split
    · simp
    · split
      · rename_i hmain
        simp [Directory.lookup, hmain]
      · cases tenants.lookup site host <;> simp

theorem lookup_of_resolves (resolves : Resolves site tenants host tenant) :
    tenants.lookup site host = some tenant := by
  rcases resolves with ⟨path, hserved⟩ | hfound
  · cases hpath : isExempt path with
    | false => exact ((tenantMiddleware_eq_served hpath).mp hserved).2
    | true =>
      rw [tenantMiddleware, if_pos hpath] at hserved
      cases hserved
  · exact hfound

theorem built_served_iff (hmem : tenant ∈ tenants.rows) (hactive : tenant.isActive = true) :
    (∀ url, Built site tenant url → ∀ path, isExempt path = false →
      tenantMiddleware site tenants path (hostOf url) = .served (some tenant)) ↔
        site.Addressable tenant := by
  have hsuffix : site.portSuffix.toList = [] ∨ ∃ port, site.portSuffix.toList = ':' :: port :=
    (portSuffix_cases site).imp id fun h => ⟨_, h⟩
  constructor
  · intro hall
    have hserved : ∀ url, Built site tenant url → site.accepts (hostOf url) = true ∧
        tenants.lookup site (hostOf url) = some tenant := fun url built =>
      (tenantMiddleware_eq_served isExempt_root).mp (hall url built "/" isExempt_root)
    have hown := hserved _ .tenantUrl
    rw [hostOf_tenantUrl hmem] at hown
    obtain ⟨hslug, hbase, hmain⟩ := (lookup_ownHost_iff hmem hactive hsuffix).mp hown.2
    have hticket := hserved _ (.getTicketUrl 0)
    rw [hostOf_getTicketUrl] at hticket
    refine ⟨hslug, hbase, hmain, ⟨hown.1, hticket.1⟩, fun domain hdomain hempty => ?_⟩
    rcases siteHost_cases site tenant with ⟨other, hother, -, hhost⟩ | ⟨hnone, -⟩
    · obtain rfl := Option.some.inj (hdomain.symm.trans hother)
      rw [hhost] at hticket
      exact (lookup_domain_iff hmem hactive hbase hmain hdomain).mp hticket.2
    · exact absurd (hnone domain hdomain) hempty
  · intro addressable url built path hpath
    refine (tenantMiddleware_eq_served hpath).mpr ?_
    have hslug : ∀ rest, (rest = [] ∨ ∃ port, rest = ':' :: port) →
        tenants.lookup site (site.ownHost tenant ++ rest) = some tenant := fun rest hrest =>
      (lookup_ownHost_iff hmem hactive hrest).mpr
        ⟨addressable.slug, addressable.base, addressable.main⟩
    have hsite : site.accepts (authority (site.siteHost tenant).toList) = true ∧
        tenants.lookup site (authority (site.siteHost tenant).toList) = some tenant := by
      refine ⟨addressable.accepted.2, ?_⟩
      rcases siteHost_cases site tenant with
        ⟨domain, hdomain, hempty, hhost⟩ | ⟨-, rest, hrest, hhost⟩
      · rw [hhost]
        exact (lookup_domain_iff hmem hactive addressable.base addressable.main hdomain).mpr
          (addressable.domain domain hdomain hempty)
      · rw [hhost, authority_ownHost hmem hrest]
        exact hslug rest (hrest.imp id fun h => ⟨_, h⟩)
    cases built with
    | tenantUrl =>
      rw [hostOf_tenantUrl hmem]
      exact ⟨addressable.accepted.1, hslug _ hsuffix⟩
    | getTicketUrl number =>
      rw [hostOf_getTicketUrl]
      exact hsite
    | absoluteUrl path hne hrelative =>
      rw [hostOf_absoluteUrl hne hrelative]
      exact hsite

end Laws

/--
The URLs of all active tenants lead back to them, and no host leads to two tenants, if and only if
all active tenants are addressable.
-/
theorem hosts_resolved_iff (site : Deployment) (tenants : Directory) :
    ((∀ tenant ∈ tenants.rows, tenant.isActive = true → ∀ url, Built site tenant url →
        ∀ path, isExempt path = false →
          tenantMiddleware site tenants path (hostOf url) = .served (some tenant)) ∧
      ∀ host tenant other, Resolves site tenants host tenant → Resolves site tenants host other →
        tenant = other) ↔
      ∀ tenant ∈ tenants.rows, tenant.isActive = true → site.Addressable tenant := by
  have hunique : ∀ host tenant other, Resolves site tenants host tenant →
      Resolves site tenants host other → tenant = other := fun host tenant other first second =>
    Option.some.inj ((lookup_of_resolves first).symm.trans (lookup_of_resolves second))
  rw [and_iff_left hunique]
  exact forall₂_congr fun tenant hmem => forall_congr' fun hactive => built_served_iff hmem hactive

/-- A site that serves every host. -/
def localSite : Deployment where
  baseDomain := "localhost"
  basePort := "8001"
  baseScheme := "http"
  debug := true
  accepts _ := true
  baseDomain_valid := by decide
  basePort_valid := by decide
  baseScheme_valid := by decide

/-- The only tenant has a capital letter in its slug. -/
def acmeOnly : Directory where
  rows := [{ slug := "Acme" }]
  slug_nonempty := by simp
  slug_valid := by decide
  slug_unique := by simp
  domain_unique := by simp

/-- The middleware looks for `acme`. -/
theorem not_hosts_resolved :
    ¬ ∀ (site : Deployment) (tenants : Directory),
      (∀ tenant ∈ tenants.rows, tenant.isActive = true → ∀ url, Built site tenant url →
        ∀ path, isExempt path = false →
          tenantMiddleware site tenants path (hostOf url) = .served (some tenant)) ∧
      ∀ host tenant other, Resolves site tenants host tenant → Resolves site tenants host other →
        tenant = other := by
  intro hall
  have hacme := (hall localSite acmeOnly).1 { slug := "Acme" } List.mem_cons_self rfl _ .tenantUrl
    "/" isExempt_root
  revert hacme
  decide +kernel

end Kanzan.Tenants.Hosts

import Kanzan.Support.Processes

/-!
# Sign-in by token

The verification page and the hand-off to a tenant host: a request that presents a token, in the
steps in which it reads and writes the database.  Every process is one request; times are in
microseconds.
-/

namespace Kanzan.Tenants

/-- What the pages use of a `User`. -/
structure User where
  isActive : Bool
  isSuperuser : Bool := false
  deriving DecidableEq, Repr

/-- An `EmailVerificationToken`. -/
structure EmailVerificationToken where
  user : ℕ
  expiresAt : ℕ
  consumedAt : Option ℕ := none
  deriving DecidableEq, Repr

namespace EmailVerificationToken

def isConsumed (token : EmailVerificationToken) : Bool := token.consumedAt.isSome

def isExpired (now : ℕ) (token : EmailVerificationToken) : Bool := token.expiresAt < now

end EmailVerificationToken

/-- The payload of a hand-off token, and the second in which it was signed. -/
structure HandoffToken where
  uid : ℕ
  next : String
  wb : Bool := false
  timestamp : ℕ
  deriving DecidableEq, Repr

/-- `HANDOFF_TOKEN_TTL_SECONDS`. -/
def handoffTokenTtlSeconds : ℕ := 30

/-- `SignatureExpired`. -/
def HandoffToken.isExpired (now : ℕ) (token : HandoffToken) : Bool :=
  handoffTokenTtlSeconds * 1000000 < now - token.timestamp * 1000000

structure TenantMembership where
  user : ℕ
  tenant : ℕ
  isActive : Bool
  deriving DecidableEq, Repr

/-- The token that a session comes from; a hand-off token by its place among those signed. -/
inductive Origin where
  | verification (token : ℕ)
  | handoff (index : ℕ)
  deriving DecidableEq, Repr

/-- A call of `login`, on the host of a tenant or on the bare domain. -/
structure Session where
  request : ℕ
  user : ℕ
  host : Option ℕ
  origin : Origin
  showWelcomeBack : Bool := false
  deriving DecidableEq, Repr

/-- The tables, the clock, and the hand-off tokens that were signed. -/
structure Realm where
  users : ℕ → Option User
  tokens : ℕ → Option EmailVerificationToken
  memberships : List TenantMembership
  isActiveTenant : ℕ → Bool
  clock : ℕ
  minted : List HandoffToken := []
  sessions : List Session := []

inductive Response where
  | error (message : String)
  | rootLogin
  | workspaces
  | setupCompany
  | admin
  | handoff (tenant index : ℕ)
  | path (next : String)
  deriving DecidableEq, Repr

/-- Where a request stands. -/
inductive Visitor where
  | ready
  /-- The token was neither consumed nor expired. -/
  | verifying (token : ℕ) (row : EmailVerificationToken) (host : Option ℕ)
  /-- `login` is next. -/
  | verified (token user : ℕ) (host : Option ℕ)
  /-- The signature is good. -/
  | handed (index : ℕ) (payload : HandoffToken) (tenant : ℕ)
  /-- The user is active. -/
  | identified (index : ℕ) (payload : HandoffToken) (tenant : ℕ)
  /-- The user is a member. -/
  | admitted (index : ℕ) (payload : HandoffToken) (tenant : ℕ)
  /-- `_post_auth_redirect` is next. -/
  | routing (user : ℕ)
  | done (response : Response)

/-- A request with its token, its next step, or something else that happens. -/
inductive Act where
  /-- `verify_email_page`; a value that no token has is as good as a wrong one. -/
  | verify (host : Option ℕ) (token : Option ℕ)
  /-- `auth_handoff`; an index that no token has stands for a bad signature. -/
  | handoff (tenant : Option ℕ) (token : Option ℕ)
  | next
  | tick (microseconds : ℕ)
  | setActive (user : ℕ) (isActive : Bool)
  | setMembership (user tenant : ℕ) (isActive : Bool)
  | issue (token : ℕ) (row : EmailVerificationToken)
  | mint (user : ℕ) (next : String) (wb : Bool)

namespace Realm

variable (realm : Realm)

def isActive (user : ℕ) : Bool := (realm.users user).any User.isActive

/-- `_has_tenant_membership`. -/
def hasTenantMembership (user tenant : ℕ) : Bool :=
  realm.memberships.any fun row => row.user = user && row.tenant = tenant && row.isActive

/-- `_make_handoff_token`. -/
def makeHandoffToken (user : ℕ) (next : String) (wb : Bool) : Realm :=
  { realm with minted := realm.minted ++ [⟨user, next, wb, realm.clock / 1000000⟩] }

/-- `login`. -/
def login (request user : ℕ) (host : Option ℕ) (origin : Origin) (showWelcomeBack : Bool) : Realm :=
  { realm with
    sessions := realm.sessions ++
      [{ request := request
         user := user
         host := host
         origin := origin
         showWelcomeBack := showWelcomeBack }] }

/-- The transaction of `verify_email_page`. -/
def activate (token : ℕ) (row : EmailVerificationToken) : Realm :=
  { realm with
    users := Function.update realm.users row.user
      ((realm.users row.user).map fun user => { user with isActive := true })
    tokens := Function.update realm.tokens token
      ((realm.tokens token).map fun row => { row with consumedAt := some realm.clock }) }

def workspacesOf (user : ℕ) : List ℕ :=
  (realm.memberships.filter fun row =>
    row.user = user && row.isActive && realm.isActiveTenant row.tenant).map TenantMembership.tenant

/-- `_post_auth_redirect` without a next page. -/
def postAuthRedirect (user : ℕ) : Realm × Response :=
  match realm.workspacesOf user with
  | [tenant] =>
    (realm.makeHandoffToken user "/dashboard/" false, .handoff tenant realm.minted.length)
  | [] =>
    (realm, if (realm.users user).any User.isSuperuser then .admin else .setupCompany)
  | _ => (realm, .workspaces)

/-- The checks of `verify_email_page`. -/
def verifyEmailPage (host : Option ℕ) : Option ℕ → Visitor
  | none => .done (.error "Missing verification token.")
  | some token =>
    match realm.tokens token with
    | none => .done (.error "This verification link is invalid.")
    | some row =>
      if row.isConsumed then
        if realm.isActive row.user then .verified token row.user host
        else .done (.error "This verification link has already been used.")
      else if row.isExpired realm.clock then
        .done (.error "This verification link has expired. Please sign up again.")
      else .verifying token row host

/-- The signature check of `auth_handoff`. -/
def authHandoff : Option ℕ → Option ℕ → Visitor
  | some tenant, some index =>
    match realm.minted[index]? with
    | none => .done .rootLogin
    | some payload =>
      if payload.isExpired realm.clock then .done .rootLogin
      else .handed index payload tenant
  | _, _ => .done .rootLogin

def nextPath (payload : HandoffToken) : String :=
  let next := if payload.next = "" then "/dashboard/" else payload.next
  if ["http://", "https://", "//"].any fun start => start.toList.isPrefixOf next.toList then
    "/dashboard/"
  else if "/".toList.isPrefixOf next.toList then next
  else "/dashboard/"

def proceed (request : ℕ) : Visitor → Realm × Visitor
  | .verifying token row host => (realm.activate token row, .verified token row.user host)
  | .verified token user host =>
    (realm.login request user host (.verification token) false, .routing user)
  | .handed index payload tenant =>
    (realm, if realm.isActive payload.uid then .identified index payload tenant
      else .done .rootLogin)
  | .identified index payload tenant =>
    (realm, if realm.hasTenantMembership payload.uid tenant then .admitted index payload tenant
      else .done .workspaces)
  | .admitted index payload tenant =>
    (realm.login request payload.uid (some tenant) (.handoff index) payload.wb,
      .done (.path (nextPath payload)))
  | .routing user =>
    let routed := realm.postAuthRedirect user
    (routed.1, .done routed.2)
  | .ready => (realm, .ready)
  | .done response => (realm, .done response)

def act (request : ℕ) (realm : Realm) (visitor : Visitor) : Act → Realm × Visitor
  | .verify host token =>
    match visitor with
    | .ready => (realm, realm.verifyEmailPage host token)
    | other => (realm, other)
  | .handoff tenant token =>
    match visitor with
    | .ready => (realm, realm.authHandoff tenant token)
    | other => (realm, other)
  | .next => realm.proceed request visitor
  | .tick microseconds => ({ realm with clock := realm.clock + microseconds }, visitor)
  | .setActive user isActive =>
    ({ realm with
        users := Function.update realm.users user
          ((realm.users user).map fun row => { row with isActive := isActive }) }, visitor)
  | .setMembership user tenant isActive =>
    ({ realm with
        memberships := ⟨user, tenant, isActive⟩ ::
          realm.memberships.filter fun row => ¬(row.user = user ∧ row.tenant = tenant) },
      visitor)
  | .issue token row =>
    ({ realm with
        tokens := if (realm.tokens token).isNone then
          Function.update realm.tokens token (some { row with consumedAt := none })
        else realm.tokens }, visitor)
  | .mint user next wb => (realm.makeHandoffToken user next wb, visitor)

end Realm

end Kanzan.Tenants

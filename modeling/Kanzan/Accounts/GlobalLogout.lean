import Kanzan.Support.Processes

/-!
# Global logout

Requests that carry sessions: the middleware compares the stamp of a session with the version of its
user, logins stamp new sessions, and the logout page raises the version.  Every process is one
request or one WebSocket connection.
-/

namespace Kanzan.Accounts.GlobalLogout

open Support

/-! ## Rows -/

/-- How a session has been established. -/
inductive LoginPath where
  | passwordPage
  | verification
  | handoff
  /-- A view that is not the project's, such as the login of the Django admin. -/
  | other
  deriving DecidableEq, Repr

/-- Whether `_stamp_session_auth_version` follows the login. -/
def LoginPath.stamps : LoginPath → Bool
  | .other => false
  | _ => true

/-- What the sessions need of a `User`. -/
structure User where
  authVersion : ℕ := 1
  isActive : Bool := true
  deriving DecidableEq, Repr

/-- The data of a session in which a user is logged in, with the path of that login and the number
of the user's global logouts before it. -/
structure Session where
  user : ℕ
  authVersion : Option ℕ
  path : LoginPath
  logouts : ℕ
  deriving DecidableEq, Repr

/-- The users, the sessions under their keys, and how many global logouts each user has made. -/
structure Site where
  users : ℕ → User
  sessions : ℕ → Option Session := fun _ => none
  logouts : ℕ → ℕ := fun _ => 0

/-- Where a request stands, with the session that it holds. -/
inductive Request where
  | waiting
  /-- The session has been read, the user has not. -/
  | read (key : ℕ) (session : Option Session)
  /-- The request is past the middleware, with a user or anonymous. -/
  | serving (held : Option (ℕ × Session)) (authenticated : Bool)
  /-- A login path has read its user. -/
  | signingIn (held : Option (ℕ × Session)) (path : LoginPath) (user : ℕ) (row : User)
  /-- `UserViewSet.update` has read the user. -/
  | editing (key : ℕ) (session : Session) (user : ℕ) (row : User)
  /-- `logout_page` has raised the version. -/
  | loggingOut (key : ℕ)
  | done
  deriving DecidableEq, Repr

/-! ## Steps -/

inductive Verdict where
  | passes
  | adopts (version : ℕ)
  | revokes
  deriving DecidableEq, Repr

/-- `SessionVersionMiddleware`, for a user who is logged in. -/
def sessionVersionMiddleware (stamped : Option ℕ) (current : ℕ) : Verdict :=
  match stamped with
  | none => .adopts current
  | some stamped => if stamped < current then .revokes else .passes

namespace Site

variable (site : Site)

def putSession (key : ℕ) (session : Option Session) : Site :=
  { site with sessions := Function.update site.sessions key session }

/-- The user is read and the version is compared; nobody is logged in as an inactive user. -/
def authenticate (key : ℕ) : Option Session → Site × Request
  | none => (site, .serving none false)
  | some session =>
    let user := site.users session.user
    if !user.isActive then (site, .serving (some (key, session)) false)
    else match sessionVersionMiddleware session.authVersion user.authVersion with
    | .passes => (site, .serving (some (key, session)) true)
    | .adopts version =>
      (site, .serving (some (key, { session with authVersion := some version })) true)
    | .revokes => (site.putSession key none, .serving none false)

def save (key : ℕ) (session : Session) : Site :=
  if (site.sessions key).isSome then site.putSession key (some session) else site

/-- What a login makes of a session, with the stamp that follows; `old` is the stamp it finds. -/
def established (path : LoginPath) (user : ℕ) (row : User) (old : Option ℕ) : Session where
  user := user
  authVersion := if path.stamps then some row.authVersion else old
  path := path
  logouts := site.logouts user

/-- `login`, for a user that has been read, and the saving of the session: a session of the same user
goes on, any other gives way to a new one. -/
def login (held : Option (ℕ × Session)) (path : LoginPath) (user : ℕ) (row : User) (newKey : ℕ) :
    Site :=
  match held with
  | none => site.putSession newKey (some (site.established path user row none))
  | some (key, session) =>
    if session.user = user then
      site.save key (site.established path user row session.authVersion)
    else
      (site.putSession key none).putSession newKey (some (site.established path user row none))

/-- The update of `logout_page`. -/
def bump (user : ℕ) : Site :=
  { site with
    users := Function.update site.users user
      { site.users user with authVersion := (site.users user).authVersion + 1 }
    logouts := Function.update site.logouts user (site.logouts user + 1) }

def putUser (user : ℕ) (row : User) : Site :=
  { site with users := Function.update site.users user row }

end Site

/-! ## Turns -/

inductive Action where
  /-- A request arrives with the key of a session. -/
  | arrive (key : ℕ)
  /-- A WebSocket connection, whose stack reads the session and the user only. -/
  | connect (key : ℕ)
  /-- The session engine keeps what has been read in its cache. -/
  | cache
  | authenticate
  /-- A login path finds its user. -/
  | identify (path : LoginPath) (user : ℕ)
  | login (newKey : ℕ)
  | bump
  /-- `logout`. -/
  | logout
  /-- `UserViewSet.update` finds the user, and then saves all columns. -/
  | edit (user : ℕ)
  | saveUser
  | finish (saves : Bool)
  | setActive (user : ℕ) (isActive : Bool)
  deriving DecidableEq, Repr

/-- A turn; what does not fit the place of a request changes nothing. -/
def act (_ : ℕ) (site : Site) (request : Request) (action : Action) : Site × Request :=
  match action, request with
  | .arrive key, .waiting => (site, .read key (site.sessions key))
  | .connect _, .waiting => (site, .done)
  | .cache, .read key (some session) =>
    (site.putSession key (some session), .read key (some session))
  | .authenticate, .read key session => site.authenticate key session
  | .identify path user, .serving held authenticated =>
    -- the password page sends those who are logged in away
    if !(site.users user).isActive || authenticated && path == .passwordPage then (site, .done)
    else (site, .signingIn held path user (site.users user))
  | .login newKey, .signingIn held path user row =>
    if (site.sessions newKey).isSome then (site, .signingIn held path user row)
    else (site.login held path user row newKey, .done)
  | .bump, .serving (some (key, session)) true => (site.bump session.user, .loggingOut key)
  | .logout, .loggingOut key => (site.putSession key none, .done)
  | .edit user, .serving (some (key, session)) true =>
    (site, .editing key session user (site.users user))
  | .saveUser, .editing key session user row =>
    (site.putUser user row, .serving (some (key, session)) true)
  | .finish saves, .serving (some (key, session)) _ =>
    (if saves then site.save key session else site, .done)
  | .setActive user isActive, request =>
    (site.putUser user { site.users user with isActive }, request)
  | _, request => (site, request)

abbrev turn : World Site Request → ℕ × Action → World Site Request := World.turn act

def opening (users : ℕ → User) : World Site Request where
  shared := { users }
  locals _ := .waiting

/-! ## Who is served -/

section Served

variable (world : World Site Request) (event : ℕ × Action)

/-- The session of a request that is served as authenticated, at the time at which its user is read. -/
def httpServed : Option Session :=
  match world.locals event.1, event.2 with
  | .read key (some session), .authenticate =>
    match (world.shared.authenticate key (some session)).2 with
    | .serving _ true => some session
    | _ => none
  | _, _ => none

/-- The session of a connection that is served as authenticated. -/
def socketServed : Option Session :=
  match world.locals event.1, event.2 with
  | .waiting, .connect key =>
    (world.shared.sessions key).filter fun session => (world.shared.users session.user).isActive
  | _, _ => none

/-- A session of the user that is served is not older than the user's last global logout. -/
def Revokes (user : ℕ) : Prop :=
  (∀ session ∈ httpServed world event, session.user = user →
    world.shared.logouts user ≤ session.logouts) ∧
  ∀ session ∈ socketServed world event, session.user = user →
    world.shared.logouts user ≤ session.logouts

/-- The same for the requests, and for sessions that were stamped when they were established. -/
def RevokesStamped (user : ℕ) : Prop :=
  ∀ session ∈ httpServed world event, session.user = user → session.path.stamps = true →
    world.shared.logouts user ≤ session.logouts

def savesVersion : Bool :=
  match world.locals event.1, event.2 with
  | .editing _ _ user row, .saveUser => (world.shared.users user).authVersion == row.authVersion
  | _, _ => true

end Served

instance (world : World Site Request) (event : ℕ × Action) (user : ℕ) :
    Decidable (Revokes world event user) :=
  inferInstanceAs (Decidable (_ ∧ _))

/-! ## Revocation

A session that was stamped when it was established is not served once its user has logged out, as
long as nobody writes an older version back. -/

variable {world : World Site Request}

section Laws

variable {first : ℕ → ℕ} {site : Site} {request : Request} {session : Session} {key user : ℕ}

/-- The stamp of a session is no newer than the login; `first` are the versions at the beginning. -/
def Dated (first : ℕ → ℕ) (session : Session) : Prop :=
  session.path.stamps = true →
    ∃ stamp, session.authVersion = some stamp ∧ stamp ≤ first session.user + session.logouts

/-- The versions count the global logouts, and the stamps are no newer than the logins. -/
structure Counted (first : ℕ → ℕ) (site : Site) : Prop where
  versions : ∀ user, (site.users user).authVersion = first user + site.logouts user
  sessions : ∀ key session, site.sessions key = some session → Dated first session

def Holds (first : ℕ → ℕ) (site : Site) : Request → Prop
  | .read _ session => ∀ held, session = some held → Dated first held
  | .serving held _ => ∀ key session, held = some (key, session) → Dated first session
  | .signingIn held _ user row =>
    (∀ key session, held = some (key, session) → Dated first session) ∧
      row.authVersion ≤ first user + site.logouts user
  | .editing _ session _ _ => Dated first session
  | _ => True

theorem Holds.mono {after : Site} (holds : Holds first site request)
    (hlogouts : ∀ user, site.logouts user ≤ after.logouts user) : Holds first after request := by
  cases request with
  | signingIn held path user row =>
    exact ⟨holds.1, Nat.le_trans holds.2 (Nat.add_le_add_left (hlogouts user) _)⟩
  | waiting => trivial
  | read key session => exact holds
  | serving held authenticated => exact holds
  | editing key session user row => exact holds
  | loggingOut key => trivial
  | done => trivial

/-! ## Tables -/

theorem Counted.putSession (counted : Counted first site) (key : ℕ) {session : Option Session}
    (hdated : ∀ held, session = some held → Dated first held) :
    Counted first (site.putSession key session) where
  versions := counted.versions
  sessions := by
    intro other held hheld
    by_cases hkey : other = key
    · subst hkey
      simp only [Site.putSession, Function.update_self] at hheld
      exact hdated held hheld
    · simp only [Site.putSession, Function.update_of_ne hkey] at hheld
      exact counted.sessions other held hheld

theorem Counted.dropSession (counted : Counted first site) (key : ℕ) :
    Counted first (site.putSession key none) :=
  counted.putSession key fun _ hnone => by cases hnone

theorem Counted.save (counted : Counted first site) (key : ℕ) (hdated : Dated first session) :
    Counted first (site.save key session) := by
  unfold Site.save
  split
  · refine counted.putSession key fun held hheld => ?_
    rw [← Option.some.inj hheld]
    exact hdated
  · exact counted

theorem logouts_save (site : Site) (key : ℕ) (session : Session) :
    (site.save key session).logouts = site.logouts := by
  unfold Site.save
  split <;> rfl

theorem Counted.putUser (counted : Counted first site) {row : User}
    (hversion : (site.users user).authVersion = row.authVersion) :
    Counted first (site.putUser user row) where
  versions := by
    intro other
    by_cases hother : other = user
    · subst hother
      refine Eq.trans ?_ (counted.versions other)
      rw [hversion]
      exact congrArg User.authVersion (Function.update_self ..)
    · refine Eq.trans ?_ (counted.versions other)
      exact congrArg User.authVersion (Function.update_of_ne hother ..)
  sessions := counted.sessions

theorem Counted.bump (counted : Counted first site) (user : ℕ) :
    Counted first (site.bump user) where
  versions := by
    intro other
    have hcount := counted.versions other
    by_cases hother : other = user
    · subst hother
      simp only [Site.bump, Function.update_self]
      rw [hcount, Nat.add_assoc]
    · simp only [Site.bump, Function.update_of_ne hother]
      exact hcount
  sessions := counted.sessions

theorem le_logouts_bump (site : Site) (user other : ℕ) :
    site.logouts other ≤ (site.bump user).logouts other := by
  by_cases hother : other = user
  · subst hother
    simp only [Site.bump, Function.update_self]
    exact Nat.le_succ _
  · simp only [Site.bump, Function.update_of_ne hother]
    exact Nat.le_refl _

theorem Counted.login (counted : Counted first site) {held : Option (ℕ × Session)}
    {path : LoginPath} {row : User} (newKey : ℕ)
    (hrow : row.authVersion ≤ first user + site.logouts user) :
    Counted first (site.login held path user row newKey) := by
  have hdated : ∀ old, Dated first (site.established path user row old) := fun old hstamps =>
    ⟨row.authVersion, if_pos hstamps, hrow⟩
  have hnew : ∀ held, some (site.established path user row none) = some held → Dated first held := by
    intro held hheld
    rw [← Option.some.inj hheld]
    exact hdated none
  unfold Site.login
  cases held with
  | none => exact counted.putSession newKey hnew
  | some held =>
    obtain ⟨key, session⟩ := held
    dsimp only
    split
    · exact counted.save key (hdated session.authVersion)
    · exact (counted.dropSession key).putSession newKey hnew

theorem logouts_login (site : Site) (held : Option (ℕ × Session)) (path : LoginPath) (user : ℕ)
    (row : User) (newKey : ℕ) :
    (site.login held path user row newKey).logouts = site.logouts := by
  unfold Site.login
  cases held with
  | none => rfl
  | some held =>
    dsimp only
    split
    · exact logouts_save ..
    · rfl

/-! ## Turns -/

theorem authenticate_keeps (counted : Counted first site) (key : ℕ) {session : Option Session}
    (hdated : ∀ held, session = some held → Dated first held) :
    Counted first (site.authenticate key session).1 ∧
      Holds first (site.authenticate key session).1 (site.authenticate key session).2 ∧
      (site.authenticate key session).1.logouts = site.logouts := by
  cases session with
  | none => exact ⟨counted, (fun _ _ hnone => by cases hnone), rfl⟩
  | some session =>
    have hheld : ∀ (other : ℕ) (held : Session), some (key, session) = some (other, held) →
        Dated first held := by
      intro other held hheld
      obtain ⟨-, rfl⟩ := Prod.mk.inj (Option.some.inj hheld)
      exact hdated session rfl
    unfold Site.authenticate
    dsimp only
    split
    · exact ⟨counted, hheld, rfl⟩
    · unfold sessionVersionMiddleware
      cases hstamp : session.authVersion with
      | none =>
        refine ⟨counted, fun other held hadopted => ?_, rfl⟩
        obtain ⟨-, rfl⟩ := Prod.mk.inj (Option.some.inj hadopted)
        -- only sessions of other login paths have no stamp to begin with
        intro hstamps
        obtain ⟨stamp, hsome, -⟩ := hdated session rfl hstamps
        rw [hstamp] at hsome
        cases hsome
      | some stamp =>
        dsimp only
        by_cases hstale : stamp < (site.users session.user).authVersion
        · rw [if_pos hstale]
          exact ⟨counted.dropSession key, (fun _ _ hnone => by cases hnone), rfl⟩
        · rw [if_neg hstale]
          exact ⟨counted, hheld, rfl⟩

/-- A turn keeps the counts and what its request holds, unless it writes an older version back. -/
theorem act_keeps {process : ℕ} {action : Action} (counted : Counted first world.shared)
    (holds : Holds first world.shared (world.locals process))
    (hsaves : savesVersion world (process, action) = true) :
    Counted first (act process world.shared (world.locals process) action).1 ∧
      Holds first (act process world.shared (world.locals process) action).1
        (act process world.shared (world.locals process) action).2 ∧
      ∀ user, world.shared.logouts user ≤
        (act process world.shared (world.locals process) action).1.logouts user := by
  unfold savesVersion at hsaves
  dsimp only at hsaves
  generalize world.shared = site at *
  generalize world.locals process = request at *
  have hsame : Counted first site ∧ Holds first site request ∧
      ∀ user, site.logouts user ≤ site.logouts user := ⟨counted, holds, fun _ => Nat.le_refl _⟩
  unfold act
  split
  · rename_i key
    exact ⟨counted, counted.sessions key, fun _ => Nat.le_refl _⟩
  · exact ⟨counted, trivial, fun _ => Nat.le_refl _⟩
  · rename_i key session
    exact ⟨counted.putSession key holds, holds, fun _ => Nat.le_refl _⟩
  · rename_i key session
    obtain ⟨hcounted, hholds, hlogouts⟩ := authenticate_keeps counted key holds
    exact ⟨hcounted, hholds, fun user => Nat.le_of_eq (congrFun hlogouts user).symm⟩
  · rename_i path user held authenticated
    split
    · exact ⟨counted, trivial, fun _ => Nat.le_refl _⟩
    · exact ⟨counted, ⟨holds, Nat.le_of_eq (counted.versions user)⟩, fun _ => Nat.le_refl _⟩
  · rename_i newKey held path user row
    split
    · exact hsame
    · refine ⟨counted.login newKey holds.2, trivial, fun other => Nat.le_of_eq ?_⟩
      exact (congrFun (logouts_login site held path user row newKey) other).symm
  · rename_i key session
    exact ⟨counted.bump session.user, trivial, le_logouts_bump site session.user⟩
  · rename_i key
    exact ⟨counted.dropSession key, trivial, fun _ => Nat.le_refl _⟩
  · rename_i user key session
    exact ⟨counted, holds key session rfl, fun _ => Nat.le_refl _⟩
  · rename_i key session user row
    refine ⟨counted.putUser (beq_iff_eq.mp hsaves), ?_, fun _ => Nat.le_refl _⟩
    intro other held hheld
    obtain ⟨-, rfl⟩ := Prod.mk.inj (Option.some.inj hheld)
    exact holds
  · rename_i saves key session authenticated
    cases saves with
    | false => exact ⟨counted, trivial, fun _ => Nat.le_refl _⟩
    | true =>
      refine ⟨counted.save key (holds key session rfl), trivial, fun user => Nat.le_of_eq ?_⟩
      exact (congrFun (logouts_save site key session) user).symm
  · rename_i user isActive request
    exact ⟨counted.putUser rfl, holds.mono fun _ => Nat.le_refl _, fun _ => Nat.le_refl _⟩
  · exact hsame

theorem sound_turns (first : ℕ → ℕ) :
    World.Sound act (fun world event => savesVersion world event = true) (Counted first)
      (fun _ site request => Holds first site request) := by
  refine ⟨fun world process action keeps hsaves => ?_,
    fun world process action other keeps hsaves _ => ?_⟩
  · obtain ⟨hcounted, hholds, -⟩ := act_keeps keeps.shared (keeps.locals process) hsaves
    exact ⟨hcounted, hholds⟩
  · obtain ⟨-, -, hlogouts⟩ := act_keeps keeps.shared (keeps.locals process) hsaves
    exact (keeps.locals other).mono hlogouts

theorem revokesStamped_of_keeps (event : ℕ × Action) (user : ℕ)
    (keeps : World.Keeps (Counted first) (fun _ site request => Holds first site request) world) :
    RevokesStamped world event user := by
  intro session hserved huser hstamps
  obtain ⟨process, action⟩ := event
  have holds := keeps.locals process
  unfold httpServed at hserved
  dsimp only at hserved
  split at hserved
  · rename_i key held hlocal
    rw [hlocal] at holds
    split at hserved
    · rename_i hauthenticated
      rw [Option.mem_some_iff] at hserved
      subst hserved
      obtain ⟨stamp, hstamp, hle⟩ := holds held rfl hstamps
      unfold Site.authenticate at hauthenticated
      dsimp only at hauthenticated
      split at hauthenticated
      · cases hauthenticated
      · unfold sessionVersionMiddleware at hauthenticated
        rw [hstamp] at hauthenticated
        dsimp only at hauthenticated
        by_cases hstale : stamp < (world.shared.users held.user).authVersion
        · rw [if_pos hstale] at hauthenticated
          cases hauthenticated
        · have hversion := keeps.shared.versions held.user
          rw [huser] at hversion hstale hle
          omega
    · cases hserved
  · cases hserved

theorem keeps_opening (users : ℕ → User) :
    World.Keeps (Counted fun user => (users user).authVersion)
      (fun _ site request => Holds (fun user => (users user).authVersion) site request)
      (opening users) where
  shared := ⟨fun _ => rfl, fun _ _ hnone => by cases hnone⟩
  locals := fun _ => trivial

end Laws

/-- User 0 signs in without a session, which gets a new one. -/
def signIn (process : ℕ) (path : LoginPath) (newKey : ℕ) : List (ℕ × Action) :=
  [(process, .arrive 0), (process, .authenticate), (process, .identify path 0),
    (process, .login newKey)]

/-- A call of the logout page. -/
def logOut (process key : ℕ) : List (ℕ × Action) :=
  [(process, .arrive key), (process, .authenticate), (process, .bump), (process, .logout)]

end Kanzan.Accounts.GlobalLogout
